/-
Which functions of the source wait, send, or touch the guard of the
watchdog.

`Footprint` does not tell these calls from the plain ones. A law about time
or about the guard does: it follows every function that makes none of them
through its pace alone.
-/
import GpsTracker.Run.Footprint

namespace GpsTracker

open Proc

-- =================================================================== kinds

/-- What a call is to a law about time: one that starts or stops the guard,
one that waits, the ends of a send, or any other. -/
inductive Kind | guard | wait | send | other
deriving DecidableEq

@[simp] def kind : Op → Kind
  | .guardFeedsLeftSet _ => .guard
  | .guardTimerSet _ => .guard
  | .kSleep _ => .wait
  | .semTake .. => .wait
  | .locationSend _ => .send
  | .enter .firstSend => .send
  | .leave .firstSend _ => .send
  | .enter .retrySend => .send
  | .leave .retrySend _ => .send
  | _ => .other

/-- `p` makes calls of the kinds `ks`. -/
def Paced (ks : List Kind) {α : Type} (p : P α) : Prop :=
  Within (S := Calls) (fun o => kind o ∈ ks) (fun _ _ => True) p

variable {ks ks' : List Kind} {α β γ : Type}

theorem Paced.mono {p : P α} (h : Paced ks p) (hk : ks ⊆ ks') :
    Paced ks' p :=
  Within.mono h (fun _ ho => hk ho) fun _ _ _ => trivial

theorem Paced.bind {p : P α} {f : α → P β} (hp : Paced ks p)
    (hf : ∀ a, Paced ks (f a)) : Paced ks (p >>= f) :=
  Within.bind hp hf

@[simp] theorem paced_pure (a : α) : Paced ks (pure a : P α) := Within.ret a

@[simp] theorem paced_halt : Paced ks (Prog.halt : P α) := Within.halt

/-- One call is of its own kind. -/
@[simp] theorem paced_call {o : Op} :
    @Paced ks (no_index o.Ret) (call o) ↔ kind o ∈ ks :=
  ⟨fun h => h.1, fun h => Within.op h⟩

@[simp] theorem paced_modify {f : Statics → Statics} :
    Paced ks (Prog.modify f : P Unit) := Within.modify fun _ => trivial

@[simp] theorem paced_call_bind {o : Op} {f : o.Ret → P β} :
    Paced ks (@Bind.bind P _ (no_index o.Ret) β (call o) f)
      ↔ kind o ∈ ks ∧ ∀ r, Paced ks (f r) := Iff.rfl

@[simp] theorem paced_get_bind {f : Statics → P β} :
    Paced ks (Prog.get >>= f) ↔ ∀ s, Paced ks (f s) := Iff.rfl

@[simp] theorem paced_modify_bind {g : Statics → Statics} {f : Unit → P β} :
    Paced ks (Prog.modify g >>= f) ↔ Paced ks (f ()) :=
  ⟨fun h => h.2, fun h => ⟨fun _ => trivial, h⟩⟩

@[simp] theorem paced_pure_bind {a : α} {f : α → P β} :
    Paced ks ((pure a : P α) >>= f) ↔ Paced ks (f a) := Iff.rfl

/-- A branch has the kinds of both its sides. -/
@[simp] theorem paced_ite {c : Prop} [Decidable c] {p q : P α} :
    Paced ks (if c then p else q)
      ↔ (c → Paced ks p) ∧ (¬c → Paced ks q) := within_ite

@[simp] theorem paced_assoc {p : P α} {f : α → P β} {g : β → P γ} :
    Paced ks (p >>= f >>= g) ↔ Paced ks (p >>= fun a => f a >>= g) := by
  rw [Prog.bind_assoc]

@[simp] theorem paced_ite_bind {c : Prop} [Decidable c] {p q : P α}
    {f : α → P β} :
    Paced ks ((if c then p else q) >>= f)
      ↔ (c → Paced ks (p >>= f)) ∧ (¬c → Paced ks (q >>= f)) :=
  within_ite_bind

/-- A logged function whose marks are not the ends of a send. -/
theorem paced_scope [Code α] {f : Fn} {p : P α} (hf : kind (.enter f) = .other)
    (hl : ∀ c, kind (.leave f c) = .other) (hk : Kind.other ∈ ks)
    (h : Paced ks p) : Paced ks (scope f p) := by
  refine within_scope ?_ h fun c => ?_
  · show kind (.enter f) ∈ ks
    rw [hf]
    exact hk
  · show kind (.leave f c) ∈ ks
    rw [hl c]
    exact hk

-- ============================================== the drivers, file by file

/-- A phase marker makes no call at all. -/
theorem watchdogPhase_paced (p : Phase) : Paced [] (watchdogPhase p) := by
  simp [watchdogPhase]

theorem watchdogFeed_paced : Paced [.other] watchdogFeed := by
  simp [watchdogFeed]

/-- Starting the watchdog does not touch its guard. -/
theorem watchdogInit_paced : Paced [.other] watchdogInit := by
  simp [watchdogInit, phaseInit]

/-- `wake_wait` waits for its semaphore. -/
theorem wakeWait_paced (seconds : Nat) :
    Paced [.other, .wait] (wakeWait seconds) :=
  paced_scope rfl (fun _ => rfl) (by simp) (by simp)

theorem powerInit_paced : Paced [.other] powerInit := by
  simp [powerInit, readVbusPresent]

/-- A look at the supply takes no time. -/
theorem powerVbusPresent_paced (site : VbusSite) :
    Paced [.other] (powerVbusPresent site) :=
  paced_scope rfl (fun _ => rfl) (by simp) (by simp [readVbusPresent])

/-- Nor does a reading of the battery. -/
theorem powerRead_paced : Paced [.other] powerRead := by
  simp [powerRead]

theorem motionInit_paced (cfg : Config) : Paced [.other] (motionInit cfg) := by
  simp [motionInit]

/-- Nor does arming. -/
theorem motionSetArmed_paced (cfg : Config) (arm : Bool) :
    Paced [.other] (motionSetArmed cfg arm) :=
  paced_scope rfl (fun _ => rfl) (by simp) (by simp)

/-- The LED is set without a wait; cancelling its work is no wait of the main
thread's. -/
theorem statusLedSet_paced (cfg : Config) (status : Status) :
    Paced [.other] (statusLedSet cfg status) := by
  simp [statusLedSet, stopBlink, ledApply]

theorem statusLedInit_paced (cfg : Config) :
    Paced [.other] (statusLedInit cfg) := by
  simp [statusLedInit, statusLedSet, stopBlink, ledApply]

theorem statusLedPattern_paced (cfg : Config) (pattern : LedPattern) :
    Paced [.other] (statusLedPattern cfg pattern) := by
  simp [statusLedPattern, stopBlink, ledApply]

theorem statusLedSleep_paced (cfg : Config) :
    Paced [.other] (statusLedSleep cfg) :=
  paced_scope rfl (fun _ => rfl) (by simp)
    (by simp [statusLedSet, stopBlink, ledApply])

-- ========================================================== the receivers

/-- Starting the modem receiver waits for nothing. -/
theorem gnssModemStart_paced (cfg : Config) (site : StartSite) :
    Paced [.other] (gnssModemStart cfg site) :=
  paced_scope rfl (fun _ => rfl) (by simp) (by simp)

theorem gnssModemStop_paced : Paced [.other] gnssModemStop :=
  paced_scope rfl (fun _ => rfl) (by simp) (by simp)

theorem gnssExtStop_paced (powerOff : Bool) :
    Paced [.other] (gnssExtStop powerOff) :=
  paced_scope rfl (fun _ => rfl) (by simp) (by simp [powerSet])

/-- Nor does the first look for either receiver. -/
theorem gnssInit_paced (cfg : Config) : Paced [.other] (gnssInit cfg) := by
  have hmodem : Paced [.other] gnssModemInit :=
    paced_scope rfl (fun _ => rfl) (by simp) (by simp)
  have hext : Paced [.other] gnssExtInit :=
    paced_scope rfl (fun _ => rfl) (by simp) (by simp)
  refine paced_scope rfl (fun _ => rfl) (by simp) (hmodem.bind fun err => ?_)
  refine paced_ite.mpr ⟨fun _ => hext.bind fun r => ?_, fun _ => ?_⟩ <;> simp

/-- The external module is given its warm-up. -/
theorem gnssExtStart_paced (cfg : Config) :
    Paced [.other, .wait] (gnssExtStart cfg) :=
  paced_scope rfl (fun _ => rfl) (by simp) (by simp [gnssExtOpen, powerSet])

/-- A start waits for the module's warm-up at most. -/
theorem gnssStart_paced (cfg : Config) :
    Paced [.other, .wait] (gnssStart cfg) := by
  have hmodem : Paced [.other, .wait] (gnssStartModem cfg) :=
    paced_modify_bind.mpr ((gnssModemStart_paced cfg .cycle).mono (by simp))
  refine paced_scope rfl (fun _ => rfl) (by simp) (paced_get_bind.mpr fun s =>
    paced_ite.mpr ⟨fun _ => paced_modify_bind.mpr ?_, fun _ => hmodem⟩)
  exact (gnssExtStart_paced cfg).bind fun r =>
    paced_ite.mpr ⟨fun _ => paced_pure _, fun _ => hmodem⟩

theorem gnssStop_paced (cfg : Config) : Paced [.other] (gnssStop cfg) :=
  paced_scope rfl (fun _ => rfl) (by simp) (paced_get_bind.mpr fun _ =>
    paced_ite.mpr ⟨fun _ => gnssExtStop_paced _, fun _ => gnssModemStop_paced⟩)

/-- A wait for a fix is one for a semaphore, of either receiver. -/
theorem gnssWaitFix_paced (cfg : Config) (timeoutS : Nat) :
    Paced [.other, .wait] (gnssWaitFix cfg timeoutS) :=
  paced_scope rfl (fun _ => rfl) (by simp)
    (by simp [gnssExtWaitFix, gnssModemWaitFix])

/-- The fallback stops and starts, and sends nothing. -/
theorem gnssFallback_paced (cfg : Config) :
    Paced [.other] (gnssFallback cfg) := by
  have hstart : Paced [.other] (do
        Prog.modify fun s => { s with active := .modem }
        let err ← gnssModemStart cfg .fallback
        if err ≠ 0 then pure err else pure 0 : P Int) :=
    paced_modify_bind.mpr ((gnssModemStart_paced cfg .fallback).bind
      fun r => by simp)
  refine paced_scope rfl (fun _ => rfl) (by simp) (Paced.bind
    (by simp [gnssFallbackAvailable]) fun b => paced_ite.mpr
      ⟨fun _ => paced_pure _, fun _ => paced_ite.mpr
        ⟨fun _ => (gnssExtStop_paced true).bind fun _ => hstart,
          fun _ => hstart⟩⟩)

-- ============================================================= the cloud

/-- Reading the credentials takes no time. -/
theorem cloudInit_paced (cfg : Config) : Paced [.other] (cloudInit cfg) := by
  refine paced_scope rfl (fun _ => rfl) (by simp) ?_
  cases cfg.cloudProvider with
  | nrfcloud => simp [Nrf.cloudInit, Nrf.credentialsOk]
  | hologram => exact paced_pure _

/-- Nor does a pause of the session. -/
theorem cloudPause_paced (cfg : Config) : Paced [.other] (cloudPause cfg) := by
  refine paced_scope rfl (fun _ => rfl) (by simp) ?_
  cases cfg.cloudProvider with
  | nrfcloud => simp [Nrf.cloudPause, Nrf.setLink]
  | hologram => exact paced_pure _

/-- A resume polls for the modem's time between sleeps, by induction on the
polls left. -/
theorem cloudResume_paced (cfg : Config) :
    Paced [.other, .wait] (cloudResume cfg) := by
  have hpoll : ∀ n, Paced [.other, .wait] (Nrf.modemTimePoll n) := by
    intro n
    induction n with
    | zero => exact paced_pure _
    | succ n ih => simp [Nrf.modemTimePoll, watchdogFeed, ih]
  have hconnect : Paced [.other, .wait] (Nrf.connect cfg) := by
    refine Paced.bind (by simp [Nrf.modemTimeWait, hpoll]) fun _ => ?_
    simp [Nrf.setLink]
  refine paced_scope rfl (fun _ => rfl) (by simp) ?_
  cases cfg.cloudProvider with
  | nrfcloud => simp [Nrf.cloudResume, Nrf.setLink, hconnect]
  | hologram => exact paced_pure _

/-- A send is a library call or a socket exchange: its time is counted at its
two ends, not at a call in it. -/
theorem cloudSendTelemetry_paced (cfg : Config) (innerJson : Text) :
    Paced [.other] (cloudSendTelemetry cfg innerJson) := by
  have hclose : ∀ err : Int, Paced [.other] (do
      let _ ← call (.lib .close)
      pure err : P Int) := by simp
  have hexchange : ∀ text, Paced [.other] (Hologram.exchange text) := by
    intro text
    refine paced_call_bind.mpr ⟨by simp, fun sent => paced_ite.mpr
      ⟨fun _ => paced_pure _, fun _ => paced_call_bind.mpr
        ⟨by simp, fun r => ?_⟩⟩⟩
    exact paced_ite.mpr ⟨fun _ => paced_pure _, fun _ => paced_pure _⟩
  have hsocket : ∀ text, Paced [.other] (Hologram.socketSendEnvelope text) := by
    intro text
    refine paced_call_bind.mpr ⟨by simp, fun _ => paced_ite.mpr
      ⟨fun _ => paced_pure _, fun _ => paced_call_bind.mpr
        ⟨by simp, fun fd => paced_ite.mpr
          ⟨fun _ => paced_pure _, fun _ => paced_call_bind.mpr
            ⟨by simp, fun err => ?_⟩⟩⟩⟩⟩
    refine paced_ite.mpr ⟨fun _ => hclose _, fun _ => ?_⟩
    exact paced_call_bind.mpr ⟨by simp, fun _ => paced_call_bind.mpr
      ⟨by simp, fun _ => (hexchange text).bind hclose⟩⟩
  cases h : cfg.cloudProvider with
  | nrfcloud => simp [cloudSendTelemetry, h, Nrf.cloudSendTelemetry]
  | hologram =>
      simp only [cloudSendTelemetry, h]
      refine Paced.bind (p := Hologram.buildEnvelope cfg innerJson)
        (by simp [Hologram.buildEnvelope]) fun e => ?_
      cases e with
      | error err => exact paced_pure _
      | ok text =>
          exact paced_ite.mpr ⟨fun _ => paced_pure _, fun _ => paced_ite.mpr
            ⟨fun _ => paced_pure _, fun _ => hsocket text⟩⟩

/-- A location is a send of its own. -/
theorem cloudSendLocation_paced (cfg : Config) (fix : TrackerFix) :
    Paced [.other, .send] (cloudSendLocation cfg fix) := by
  cases h : cfg.cloudProvider <;>
    simp [cloudSendLocation, h, Nrf.cloudSendLocation]

-- ========================================================== the assistance

theorem rateLimited_paced (cfg : Config) : Paced [.other] (rateLimited cfg) := by
  simp [rateLimited]

/-- A fetch is one download and one injection: its time is counted at its
ends. -/
theorem fetchAndInject_paced (cfg : Config) :
    Paced [.other] (fetchAndInject cfg) := by
  refine Paced.bind (p := gnssModemAgnssRequestGet)
    (by simp [gnssModemAgnssRequestGet]) fun asked => ?_
  cases agnssFrame cfg asked with
  | none => exact paced_pure _
  | some req => simp [servingCellInfoGet]

-- ================================================================ main.c

theorem lteIsRegistered_paced : Paced [.other] lteIsRegistered := by
  simp [lteIsRegistered]

/-- Waiting for the registration takes one semaphore. -/
theorem lteEnsureConnected_paced (cfg : Config) :
    Paced [.other, .wait] (lteEnsureConnected cfg) :=
  paced_scope rfl (fun _ => rfl) (by simp)
    ((lteIsRegistered_paced.mono (by simp)).bind fun b => by simp)

theorem surgeActive_paced (cfg : Config) (motionCycle : Bool) :
    Paced [.other] (surgeActive cfg motionCycle) :=
  paced_scope rfl (fun _ => rfl) (by simp) (by simp [motionLastEventUptime])

/-- Telling the LED of a report takes no time. -/
theorem statusLedReport_paced (cfg : Config) (haveFix : Bool) :
    Paced [.other] (statusLedReport cfg haveFix) := by
  have hpattern : Paced [.other] (ledPattern cfg) := by
    refine paced_ite.mpr ⟨fun _ => paced_pure _, fun _ =>
      (powerVbusPresent_paced .ledPattern).bind fun b => paced_ite.mpr
        ⟨fun _ => paced_pure _, fun _ => powerRead_paced.bind fun p => ?_⟩⟩
    cases p with
    | error err => exact paced_pure _
    | ok p => simp
  have hset : ∀ lte, Paced [.other] (do
        statusLedSet cfg
          (if !lte then .noLte else if haveFix then .lteFix else .lteNoFix)
        statusLedPattern cfg (← ledPattern cfg)) := fun lte =>
    (statusLedSet_paced cfg _).bind fun _ => hpattern.bind fun p =>
      statusLedPattern_paced cfg p
  exact paced_ite.mpr ⟨fun _ => hset true, fun _ =>
    lteIsRegistered_paced.bind hset⟩

/-- Recovery sleeps: before a reboot, or between the two switches of the
modem. -/
theorem recoverIfSilent_paced (cfg : Config) :
    Paced [.other, .wait] (recoverIfSilent cfg) :=
  paced_scope rfl (fun _ => rfl) (by simp) (by simp [watchdogPhase])

/-- A battery sleep waits once, in `wake_wait`. -/
theorem batterySleep_paced (cfg : Config) (site : SleepSite) :
    Paced [.other, .wait] (batterySleep cfg site) := by
  have hwait : Paced [.other, .wait] (do
        watchdogPhase .sleep
        wakeWait cfg.sleepSeconds) :=
    ((watchdogPhase_paced _).mono (by simp)).bind fun _ => wakeWait_paced _
  refine paced_scope rfl (fun _ => rfl) (by simp) (paced_get_bind.mpr fun s =>
    ((watchdogPhase_paced _).mono (by simp)).bind fun _ =>
    ((statusLedSleep_paced cfg).mono (by simp)).bind fun _ =>
    ((watchdogPhase_paced _).mono (by simp)).bind fun _ =>
    ((motionSetArmed_paced cfg _).mono (by simp)).bind fun _ =>
    paced_ite.mpr ⟨fun _ => paced_modify_bind.mpr hwait, fun _ => hwait⟩)

theorem topOfCycle_paced (wakeReason : WakeReason) :
    Paced [.other] (topOfCycle wakeReason) := by
  simp [topOfCycle, watchdogPhase, watchdogFeed]

/-- The condition of the frequent loop takes no time. -/
theorem keepReporting_paced (cfg : Config) (site : VbusSite)
    (motionCycle : Bool) :
    Paced [.other] (keepReporting cfg site motionCycle) :=
  (powerVbusPresent_paced site).bind fun _ => paced_ite.mpr
    ⟨fun _ => paced_pure _, fun _ => surgeActive_paced cfg motionCycle⟩

/-- Nor does holding off the motion trigger. -/
theorem holdOffMotion_paced (cfg : Config) :
    Paced [.other] (holdOffMotion cfg) :=
  (powerVbusPresent_paced .body).bind fun _ => paced_ite.mpr
    ⟨fun _ => (motionSetArmed_paced cfg false).bind fun _ => by simp,
      fun _ => paced_pure _⟩

/-- The whole of the set-up waits for nothing and sends nothing. -/
theorem setUp_paced (cfg : Config) : Paced [.other] (setUp cfg) := by
  have hradio : Paced [.other] (radioInit cfg) := by
    simp [radioInit]
  refine paced_call_bind.mpr ⟨by simp, fun err => paced_ite.mpr
    ⟨fun _ => paced_pure _, fun _ => watchdogInit_paced.bind fun _ => ?_⟩⟩
  refine paced_call_bind.mpr ⟨by simp, fun _ => powerInit_paced.bind fun _ =>
    (motionInit_paced cfg).bind fun _ => (statusLedInit_paced cfg).bind
    fun _ => (gnssInit_paced cfg).bind fun _ => paced_ite.mpr
      ⟨fun _ => paced_pure _, fun _ => hradio.bind fun _ => paced_ite.mpr
        ⟨fun _ => paced_pure _, fun _ => (cloudInit_paced cfg).bind fun _ =>
          (statusLedReport_paced cfg false).bind fun _ => paced_pure _⟩⟩⟩

end GpsTracker
