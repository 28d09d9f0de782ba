/-
What each function of the source can touch: the groups of calls it makes
and the statics it writes.

A law about one part of the program follows every other part through its
footprint alone. Calls are grouped by what a law may care about, and
`plain` holds the rest: calls that change nothing but a semaphore other
than the wake one, the last word on VBUS, the guard timer or the LED.
-/
import GpsTracker.Model.Main

namespace GpsTracker

open Proc

-- ================================================================ groups

/-- Kinds of calls. -/
inductive Group
  | plain
  | mark (f : Fn)
  | wake | trigger | lastEventLo | funcMode | reboot
  | session | send | location | rsrp | download | inject
  | modemRun | pin | pm
deriving DecidableEq, Repr

/-- The group of a call. -/
@[simp] def group : Op → Group
  | .enter f => .mark f
  | .leave f _ => .mark f
  | .semReset .wake => .wake
  | .semTake .wake _ => .wake
  | .pendingSet _ => .wake
  | .pendingGet => .wake
  | .sensorTriggerSet _ => .trigger
  | .lastEventLoGet => .lastEventLo
  | .funcModeSet .offline => .funcMode
  | .funcModeSet .normal => .funcMode
  | .sysReboot => .reboot
  | .coapConnect => .session
  | .coapDisconnect => .session
  | .coapPause => .session
  | .coapResume => .session
  | .jsonMessageSend _ => .send
  | .sendSocket _ => .send
  | .locationSend _ => .location
  | .rsrpGet => .rsrp
  | .agnssDataGet _ => .download
  | .agnssProcess => .inject
  | .gnssRun _ => .modemRun
  | .gpioPinConfigure => .pin
  | .gpioPinSet _ => .pin
  | .pmAction .. => .pm
  | _ => .plain

/-- The static variables, as names. -/
inductive Var
  | lastSendUptime | modemBounced | batterySleeps
  | linkState | credsOk | modemTimeReady
  | lastFetchUptimeMs | active | externalUsable | powered
  | usable | armed | phase | latch | wdtChannel | ledAvailable
deriving DecidableEq, Repr

/-- Two states agree on a variable; the latch is what `phase_init` alone
decides, and with it that `phase_current` keeps to the numbers of
phases. -/
@[simp] def Var.Same (s s' : Statics) : Var → Prop
  | .lastSendUptime => s'.lastSendUptime = s.lastSendUptime
  | .modemBounced => s'.modemBounced = s.modemBounced
  | .batterySleeps => s'.batterySleeps = s.batterySleeps
  | .linkState => s'.linkState = s.linkState
  | .credsOk => s'.credsOk = s.credsOk
  | .modemTimeReady => s'.modemTimeReady = s.modemTimeReady
  | .lastFetchUptimeMs => s'.lastFetchUptimeMs = s.lastFetchUptimeMs
  | .active => s'.active = s.active
  | .externalUsable => s'.externalUsable = s.externalUsable
  | .powered => s'.powered = s.powered
  | .usable => s'.usable = s.usable
  | .armed => s'.armed = s.armed
  | .phase => s'.phaseCurrent = s.phaseCurrent
  | .latch => s'.phaseMagic = s.phaseMagic
      ∧ s'.phaseAtReset = s.phaseAtReset
      ∧ (s.phaseCurrent ≤ Phase.noNetwork.code →
        s'.phaseCurrent ≤ Phase.noNetwork.code)
  | .wdtChannel => s'.wdtChannel = s.wdtChannel
  | .ledAvailable => s'.ledAvailable = s.ledAvailable

/-- A statement about every variable, one at a time. -/
theorem Var.forall {p : Var → Prop} :
    (∀ v, p v) ↔ p .lastSendUptime ∧ p .modemBounced ∧ p .batterySleeps
      ∧ p .linkState ∧ p .credsOk ∧ p .modemTimeReady
      ∧ p .lastFetchUptimeMs ∧ p .active ∧ p .externalUsable ∧ p .powered
      ∧ p .usable ∧ p .armed ∧ p .phase ∧ p .latch ∧ p .wdtChannel
      ∧ p .ledAvailable := by
  constructor
  · intro h
    simp [h]
  · intro h v
    cases v <;> simp [h]

/-- A write that touches at most the variables of `vs`. -/
def Touch (vs : List Var) (s s' : Statics) : Prop :=
  ∀ v, v ∉ vs → v.Same s s'

/-- `p` makes calls of the groups `gs` and writes the variables `vs`. -/
def Foot (gs : List Group) (vs : List Var) {α : Type} (p : P α) : Prop :=
  Within (S := Calls) (fun o => group o ∈ gs) (Touch vs) p

/-- A call that a law about the groups `bad` does not look at. -/
def Off (bad : List Group) (o : Op) : Prop := group o ∉ bad

/-- A write that a law about the variables `keep` does not look at. -/
def Keep (keep : List Var) (s s' : Statics) : Prop :=
  ∀ v ∈ keep, v.Same s s'

/-- What is off a list is off a shorter one. -/
theorem Off.mono {bad bad' : List Group} {o : Op} (h : Off bad o)
    (hs : bad' ⊆ bad) : Off bad' o := fun hm => h (hs hm)

/-- A call off a list is of no group of it. -/
theorem Off.ne {bad : List Group} {o : Op} {g : Group} (h : Off bad o)
    (hg : g ∈ bad) : group o ≠ g := fun he => h (he ▸ hg)

variable {gs gs' : List Group} {vs vs' : List Var} {α β γ : Type}

/-- A larger footprint is a footprint. -/
theorem Foot.mono {p : P α} (h : Foot gs vs p) (hg : gs ⊆ gs')
    (hv : vs ⊆ vs') : Foot gs' vs' p :=
  Within.mono h (fun _ ho => hg ho) fun _ _ hs v hn => hs v fun hm => hn (hv hm)

/-- What lies outside a footprint is left alone. -/
theorem Foot.off {p : P α} (h : Foot gs vs p) {bad : List Group}
    {keep : List Var} (hg : ∀ g ∈ gs, g ∉ bad) (hv : ∀ v ∈ keep, v ∉ vs) :
    Within (S := Calls) (Off bad) (Keep keep) p :=
  Within.mono h (fun _ ho => hg _ ho) fun _ _ hs v hk => hs v (hv v hk)

/-- What runs in sequence has the footprint of both its parts. -/
theorem Foot.bind {p : P α} {f : α → P β} (hp : Foot gs vs p)
    (hf : ∀ a, Foot gs vs (f a)) : Foot gs vs (p >>= f) :=
  Within.bind hp hf

-- ========================================================== reading a program

section Reading

variable {C : Op → Prop} {W : Statics → Statics → Prop}

/-- A branch is within what both its sides are, each on its condition. -/
theorem within_ite {c : Prop} [Decidable c] {p q : P α} :
    Within (S := Calls) C W (if c then p else q)
      ↔ (c → Within (S := Calls) C W p) ∧ (¬c → Within (S := Calls) C W q) := by
  split
  case isTrue h =>
    simp only [h, true_implies, not_true, false_implies, and_true]
  case isFalse h =>
    simp only [h, false_implies, not_false_iff, true_implies, true_and]

theorem within_ite_bind {c : Prop} [Decidable c] {p q : P α}
    {f : α → P β} :
    Within (S := Calls) C W ((if c then p else q) >>= f)
      ↔ (c → Within (S := Calls) C W (p >>= f))
        ∧ (¬c → Within (S := Calls) C W (q >>= f)) := by
  split
  case isTrue h =>
    simp only [h, true_implies, not_true, false_implies, and_true]
  case isFalse h =>
    simp only [h, false_implies, not_false_iff, true_implies, true_and]

/-- A logged function makes its body's calls and its own marks. -/
theorem within_scope [Code α] {f : Fn} {p : P α} (he : C (.enter f))
    (hp : Within (S := Calls) C W p) (hl : ∀ c, C (.leave f c)) :
    Within (S := Calls) C W (scope f p) :=
  ⟨he, fun _ => hp.bind fun _ => ⟨hl _, fun _ => trivial⟩⟩

/-- And the body of a logged function is within what the whole is. -/
theorem within_of_scope [Code α] {f : Fn} {p : P α}
    (h : Within (S := Calls) C W (scope f p)) :
    Within (S := Calls) C W p := by
  have hp : Within (S := Calls) C W (p >>= fun a =>
      call (.leave f (Code.code a)) >>= fun _ => pure a) := h.2 ()
  clear h
  revert hp
  induction p with
  | ret a => exact fun _ => trivial
  | stop => exact fun _ => trivial
  | read k ih => exact fun h s => ih s (h s)
  | write g p ih => exact fun h => ⟨h.1, ih h.2⟩
  | call o k ih => exact fun h => ⟨h.1, fun r => ih r (h.2 r)⟩

end Reading

-- ====================================================== reading a footprint

@[simp] theorem touch_iff {s s' : Statics} :
    Touch vs s s' ↔ ∀ v, v ∉ vs → v.Same s s' := Iff.rfl

@[simp] theorem foot_pure (a : α) : Foot gs vs (pure a : P α) :=
  Within.ret a

@[simp] theorem foot_halt : Foot gs vs (Prog.halt : P α) := Within.halt

/-- One call is its own footprint. -/
@[simp] theorem foot_call {o : Op} :
    @Foot gs vs (no_index o.Ret) (call o) ↔ group o ∈ gs :=
  ⟨fun h => h.1, fun h => Within.op h⟩

/-- A write is within the variables it leaves no other than. -/
@[simp] theorem foot_modify {f : Statics → Statics} :
    Foot gs vs (Prog.modify f : P Unit) ↔ ∀ s, Touch vs s (f s) :=
  ⟨fun h => h.1, fun h => Within.modify h⟩

@[simp] theorem foot_call_bind {o : Op} {f : o.Ret → P β} :
    Foot gs vs (@Bind.bind P _ (no_index o.Ret) β (call o) f)
      ↔ group o ∈ gs ∧ ∀ r, Foot gs vs (f r) := Iff.rfl

@[simp] theorem foot_get_bind {f : Statics → P β} :
    Foot gs vs (Prog.get >>= f) ↔ ∀ s, Foot gs vs (f s) := Iff.rfl

@[simp] theorem foot_modify_bind {g : Statics → Statics} {f : Unit → P β} :
    Foot gs vs (Prog.modify g >>= f)
      ↔ (∀ s, Touch vs s (g s)) ∧ Foot gs vs (f ()) := Iff.rfl

@[simp] theorem foot_pure_bind {a : α} {f : α → P β} :
    Foot gs vs ((pure a : P α) >>= f) ↔ Foot gs vs (f a) := Iff.rfl

/-- A branch has the footprint of both its sides. -/
@[simp] theorem foot_ite {c : Prop} [Decidable c] {p q : P α} :
    Foot gs vs (if c then p else q)
      ↔ (c → Foot gs vs p) ∧ (¬c → Foot gs vs q) := within_ite

@[simp] theorem foot_assoc {p : P α} {f : α → P β} {g : β → P γ} :
    Foot gs vs (p >>= f >>= g)
      ↔ Foot gs vs (p >>= fun a => f a >>= g) := by
  rw [Prog.bind_assoc]

@[simp] theorem foot_ite_bind {c : Prop} [Decidable c] {p q : P α}
    {f : α → P β} :
    Foot gs vs ((if c then p else q) >>= f)
      ↔ (c → Foot gs vs (p >>= f)) ∧ (¬c → Foot gs vs (q >>= f)) :=
  within_ite_bind

/-- A logged function has its body's footprint and its own mark. -/
@[simp] theorem foot_scope [Code α] {f : Fn} {p : P α} :
    Foot gs vs (scope f p) ↔ Group.mark f ∈ gs ∧ Foot gs vs p := by
  constructor
  · intro h
    exact ⟨h.1, within_of_scope h⟩
  · intro h
    exact within_scope h.1 h.2 fun _ => h.1

/-- `p` is one body under the mark of `f`. -/
def Scoped [Code α] (f : Fn) (gs : List Group) (vs : List Var) (p : P α) :
    Prop :=
  ∃ body : P α, p = scope f body ∧ Foot gs vs body

/-- The mark of a logged function joins the footprint of its body. -/
theorem Scoped.foot [Code α] {f : Fn} {p : P α} (h : Scoped f gs vs p) :
    Foot (.mark f :: gs) vs p := by
  obtain ⟨body, rfl, hbody⟩ := h
  exact foot_scope.mpr ⟨by simp, hbody.mono (by simp) (by simp)⟩

-- ============================================== the drivers, file by file

/-- `TRACKER_PHASE_NO_NETWORK` is the last of the phases. -/
@[simp] theorem Phase.code_le (p : Phase) : p.code ≤ Phase.noNetwork.code := by
  cases p <;> decide

/-- A phase marker is a store and nothing else. -/
theorem watchdogPhase_foot (p : Phase) :
    Foot [] [.phase] (watchdogPhase p) := by
  simp [watchdogPhase, Var.forall]

/-- A feed is one call, or none before the watchdog has a channel. -/
theorem watchdogFeed_foot : Foot [.plain] [] watchdogFeed := by
  simp [watchdogFeed]

/-- The guard is armed and started by calls that every law but the one on the
guard may pass over. -/
theorem watchdogGuardStart_foot (budgetS : Nat) :
    Foot [.plain] [] (watchdogGuardStart budgetS) := by
  simp [watchdogGuardStart, watchdogFeed]

theorem watchdogGuardStop_foot : Foot [.plain] [] watchdogGuardStop := by
  simp [watchdogGuardStop, watchdogFeed]

/-- `phase_init` writes the retained words and what it latched of them. -/
theorem phaseInit_foot : Foot [] [.phase, .latch] phaseInit := by
  unfold phaseInit
  rw [foot_modify]
  intro s
  split <;> simp [Var.forall]

/-- `watchdog_init` adds the channel. -/
theorem watchdogInit_foot :
    Foot [.plain] [.phase, .latch, .wdtChannel] watchdogInit :=
  (phaseInit_foot.mono (by simp) (by simp)).bind fun _ => by
    simp [Var.forall]

/-- `wake_wait` touches the wake semaphore and its pending reason alone. -/
theorem wakeWait_scoped (seconds : Nat) :
    Scoped .wakeWait [.wake] [] (wakeWait seconds) :=
  ⟨_, rfl, by simp⟩

theorem wakeWait_foot (seconds : Nat) :
    Foot [.mark .wakeWait, .wake] [] (wakeWait seconds) :=
  (wakeWait_scoped seconds).foot

/-- `power_init` reads and registers, and keeps nothing. -/
theorem powerInit_foot : Foot [.plain] [] powerInit := by
  simp [powerInit, readVbusPresent]

/-- A look at the supply may refresh the last word on VBUS, which is plain. -/
theorem powerVbusPresent_scoped (site : VbusSite) :
    Scoped (.powerVbusPresent site) [.plain] [] (powerVbusPresent site) :=
  ⟨_, rfl, by simp [readVbusPresent]⟩

theorem powerVbusPresent_foot (site : VbusSite) :
    Foot [.mark (.powerVbusPresent site), .plain] []
      (powerVbusPresent site) := (powerVbusPresent_scoped site).foot

theorem powerRead_foot : Foot [.plain] [] powerRead := by
  simp [powerRead]

theorem motionInit_foot (cfg : Config) :
    Foot [.plain] [.usable] (motionInit cfg) := by
  simp [motionInit, Var.forall]

/-- Arming sets the trigger and the word on it. -/
theorem motionSetArmed_scoped (cfg : Config) (arm : Bool) :
    Scoped (.motionSetArmed arm) [.trigger] [.armed]
      (motionSetArmed cfg arm) :=
  ⟨_, rfl, by simp [Var.forall]⟩

theorem motionSetArmed_foot (cfg : Config) (arm : Bool) :
    Foot [.mark (.motionSetArmed arm), .trigger] [.armed]
      (motionSetArmed cfg arm) := (motionSetArmed_scoped cfg arm).foot

/-- The LED keeps its state apart: no law but its own looks at it. -/
theorem statusLedSet_foot (cfg : Config) (status : Status) :
    Foot [.plain] [] (statusLedSet cfg status) := by
  simp [statusLedSet, stopBlink, ledApply]

theorem statusLedInit_foot (cfg : Config) :
    Foot [.plain] [.ledAvailable] (statusLedInit cfg) := by
  simp [statusLedInit, statusLedSet, stopBlink, ledApply, Var.forall]

theorem statusLedPattern_foot (cfg : Config) (pattern : LedPattern) :
    Foot [.plain] [] (statusLedPattern cfg pattern) := by
  simp [statusLedPattern, stopBlink, ledApply]

theorem statusLedSleep_scoped (cfg : Config) :
    Scoped .statusLedSleep [.plain] [] (statusLedSleep cfg) :=
  ⟨_, rfl, by simp [statusLedSet, stopBlink, ledApply]⟩

theorem statusLedSleep_foot (cfg : Config) :
    Foot [.mark .statusLedSleep, .plain] [] (statusLedSleep cfg) :=
  (statusLedSleep_scoped cfg).foot

-- ========================================================== the receivers

theorem gnssModemInit_foot :
    Foot [.plain, .mark .gnssModemInit] [] gnssModemInit := by
  simp [gnssModemInit]

/-- The start of the modem receiver empties its semaphores and runs it; it
keeps nothing of its own. -/
theorem gnssModemStart_foot (cfg : Config) (site : StartSite) :
    Foot [.plain, .modemRun, .mark (.gnssModemStart site)] []
      (gnssModemStart cfg site) := by
  simp [gnssModemStart]

theorem gnssModemStop_foot :
    Foot [.modemRun, .mark .gnssModemStop] [] gnssModemStop := by
  simp [gnssModemStop]

theorem gnssExtInit_foot :
    Foot [.plain, .pin, .pm, .mark .gnssExtInit] [] gnssExtInit := by
  simp [gnssExtInit]

/-- The external module powers its pin, resumes its port and remembers that it
is powered. -/
theorem gnssExtStart_foot (cfg : Config) :
    Foot [.plain, .pin, .pm, .mark .gnssExtStart] [.powered]
      (gnssExtStart cfg) := by
  simp [gnssExtStart, gnssExtOpen, powerSet, Var.forall]

theorem gnssExtStop_foot (powerOff : Bool) :
    Foot [.pin, .pm, .mark .gnssExtStop] [.powered]
      (gnssExtStop powerOff) := by
  simp [gnssExtStop, powerSet, Var.forall]

/-- The arbiter remembers which module is usable and picks the modem. -/
theorem gnssInit_foot (cfg : Config) :
    Foot [.plain, .pin, .pm, .mark .gnssInit, .mark .gnssModemInit,
      .mark .gnssExtInit] [.externalUsable, .active] (gnssInit cfg) := by
  refine foot_scope.mpr ⟨by simp,
    (gnssModemInit_foot.mono (by simp) (by simp)).bind fun modemErr =>
      foot_ite.mpr ⟨fun _ => ?_, fun _ => by simp [Var.forall]⟩⟩
  exact (gnssExtInit_foot.mono (by simp) (by simp)).bind fun r => by
    simp [Var.forall]

/-- The groups of `gnss_start`, its own mark apart. -/
abbrev startGroups : List Group :=
  [.plain, .modemRun, .pin, .pm, .mark .gnssExtStart,
    .mark (.gnssModemStart .cycle)]

/-- A start picks a receiver, and the modem where the module fails. -/
theorem gnssStart_scoped (cfg : Config) :
    Scoped .gnssStart startGroups [.active, .powered] (gnssStart cfg) := by
  have hmodem : Foot startGroups [.active, .powered] (gnssStartModem cfg) :=
    foot_modify_bind.mpr ⟨by simp [Var.forall],
      (gnssModemStart_foot cfg .cycle).mono (by simp) (by simp)⟩
  refine ⟨_, rfl, foot_get_bind.mpr fun s =>
    foot_ite.mpr ⟨fun _ => ?_, fun _ => hmodem⟩⟩
  exact foot_modify_bind.mpr ⟨by simp [Var.forall],
    ((gnssExtStart_foot cfg).mono (by simp) (by simp)).bind fun r =>
      foot_ite.mpr ⟨fun _ => foot_pure _, fun _ => hmodem⟩⟩

theorem gnssStart_foot (cfg : Config) :
    Foot (.mark .gnssStart :: startGroups) [.active, .powered]
      (gnssStart cfg) := (gnssStart_scoped cfg).foot

/-- A stop goes to the receiver that is active and picks none. -/
theorem gnssStop_scoped (cfg : Config) :
    Scoped .gnssStop [.modemRun, .pin, .pm, .mark .gnssExtStop,
      .mark .gnssModemStop] [.powered] (gnssStop cfg) := by
  refine ⟨_, rfl, foot_get_bind.mpr fun s =>
    foot_ite.mpr ⟨fun _ => ?_, fun _ => ?_⟩⟩
  · exact (gnssExtStop_foot _).mono (by simp) (by simp)
  · exact gnssModemStop_foot.mono (by simp) (by simp)

theorem gnssStop_foot (cfg : Config) :
    Foot [.mark .gnssStop, .modemRun, .pin, .pm, .mark .gnssExtStop,
      .mark .gnssModemStop] [.powered] (gnssStop cfg) :=
  (gnssStop_scoped cfg).foot

/-- A wait for a fix, on either receiver, takes and reads only. -/
theorem gnssWaitFix_scoped (cfg : Config) (timeoutS : Nat) :
    Scoped .gnssWaitFix [.plain] [] (gnssWaitFix cfg timeoutS) :=
  ⟨_, rfl, by simp [gnssExtWaitFix, gnssModemWaitFix]⟩

theorem gnssWaitFix_foot (cfg : Config) (timeoutS : Nat) :
    Foot [.mark .gnssWaitFix, .plain] [] (gnssWaitFix cfg timeoutS) :=
  (gnssWaitFix_scoped cfg timeoutS).foot

/-- The groups of `gnss_fallback`, its own mark apart. -/
abbrev fallbackGroups : List Group :=
  [.plain, .modemRun, .pin, .pm, .mark .gnssExtStop,
    .mark (.gnssModemStart .fallback)]

/-- A fallback stops the module, picks the modem and starts it. -/
theorem gnssFallback_scoped (cfg : Config) :
    Scoped .gnssFallback fallbackGroups [.active, .powered]
      (gnssFallback cfg) := by
  have hstart : Foot fallbackGroups [.active, .powered] (do
        Prog.modify fun s => { s with active := .modem }
        let err ← gnssModemStart cfg .fallback
        if err ≠ 0 then pure err else pure 0) :=
    foot_modify_bind.mpr ⟨by simp [Var.forall],
      ((gnssModemStart_foot cfg .fallback).mono (by simp) (by simp)).bind
        fun r => by simp⟩
  have hstop : Foot fallbackGroups [.active, .powered] (gnssExtStop true) :=
    (gnssExtStop_foot true).mono (by simp) (by simp)
  refine ⟨_, rfl, Foot.bind (by simp [gnssFallbackAvailable]) fun b => ?_⟩
  refine foot_ite.mpr ⟨fun _ => foot_pure _, fun _ => ?_⟩
  exact foot_ite.mpr ⟨fun _ => hstop.bind fun _ => hstart, fun _ => hstart⟩

theorem gnssFallback_foot (cfg : Config) :
    Foot [.plain, .modemRun, .pin, .pm, .mark .gnssFallback,
      .mark .gnssExtStop, .mark (.gnssModemStart .fallback)]
      [.active, .powered] (gnssFallback cfg) :=
  (gnssFallback_scoped cfg).foot.mono (by simp) (by simp)

/-- A wait for the modem's request takes only. -/
theorem gnssAgnssRequestWait_foot (timeoutS : Nat) :
    Foot [.plain] [] (gnssAgnssRequestWait timeoutS) := by
  simp [gnssAgnssRequestWait, gnssModemAgnssRequestWait]

-- ============================================================= the cloud

/-- The wait for the modem's time polls and feeds, and remembers that it has
found it. -/
theorem modemTimeWait_foot (cfg : Config) :
    Foot [.plain] [.modemTimeReady] (Nrf.modemTimeWait cfg) := by
  have hpoll : ∀ n, Foot [.plain] [.modemTimeReady]
      (Nrf.modemTimePoll n) := by
    intro n
    induction n with
    | zero => exact foot_pure _
    | succ n ih => simp [Nrf.modemTimePoll, watchdogFeed, ih, Var.forall]
  simp [Nrf.modemTimeWait, hpoll]

/-- A connect waits for the time and then opens the session. -/
theorem connect_foot (cfg : Config) :
    Foot [.plain, .session] [.linkState, .modemTimeReady]
      (Nrf.connect cfg) := by
  refine ((modemTimeWait_foot cfg).mono (by simp) (by simp)).bind
    fun _ => ?_
  simp [Nrf.setLink, Var.forall]

theorem cloudInit_foot (cfg : Config) :
    Foot [.plain, .mark .cloudInit] [.credsOk] (cloudInit cfg) := by
  cases h : cfg.cloudProvider <;>
    simp [cloudInit, h, Nrf.cloudInit, Nrf.credentialsOk, Var.forall]

/-- A resume sets the link; over Hologram it does nothing. -/
theorem cloudResume_scoped (cfg : Config) :
    Scoped .cloudResume [.plain, .session] [.linkState, .modemTimeReady]
      (cloudResume cfg) := by
  refine ⟨_, rfl, ?_⟩
  cases cfg.cloudProvider with
  | nrfcloud => simp [Nrf.cloudResume, Nrf.setLink, connect_foot, Var.forall]
  | hologram => exact foot_pure _

theorem cloudResume_foot (cfg : Config) :
    Foot [.mark .cloudResume, .plain, .session]
      [.linkState, .modemTimeReady] (cloudResume cfg) :=
  (cloudResume_scoped cfg).foot

/-- And so does a pause. -/
theorem cloudPause_scoped (cfg : Config) :
    Scoped .cloudPause [.plain, .session] [.linkState] (cloudPause cfg) := by
  refine ⟨_, rfl, ?_⟩
  cases cfg.cloudProvider with
  | nrfcloud => simp [Nrf.cloudPause, Nrf.setLink, Var.forall]
  | hologram => exact foot_pure _

theorem cloudPause_foot (cfg : Config) :
    Foot [.mark .cloudPause, .plain, .session] [.linkState]
      (cloudPause cfg) := (cloudPause_scoped cfg).foot

/-- Whether the link is up is read, not asked. -/
theorem cloudIsReady_foot (cfg : Config) :
    Foot [] [] (cloudIsReady cfg) := by
  cases h : cfg.cloudProvider <;> simp [cloudIsReady, h, Nrf.cloudIsReady]

theorem buildEnvelope_foot (cfg : Config) (innerJson : Text) :
    Foot [.plain] [] (Hologram.buildEnvelope cfg innerJson) := by
  simp [Hologram.buildEnvelope]

/-- One envelope goes out, one answer comes back. -/
theorem exchange_foot (text : Text) :
    Foot [.plain, .send] [] (Hologram.exchange text) := by
  refine foot_call_bind.mpr ⟨by simp, fun sent => foot_ite.mpr
    ⟨fun _ => foot_pure _, fun _ => foot_call_bind.mpr
      ⟨by simp, fun r => ?_⟩⟩⟩
  exact foot_ite.mpr ⟨fun _ => foot_pure _, fun _ => foot_pure _⟩

/-- A socket is opened, used for one exchange and closed. -/
theorem socketSendEnvelope_foot (text : Text) :
    Foot [.plain, .send] [] (Hologram.socketSendEnvelope text) := by
  have hclose : ∀ err : Int, Foot [.plain, .send] [] (do
      let _ ← call (.lib .close)
      pure err : P Int) := by simp
  refine foot_call_bind.mpr ⟨by simp, fun _ => foot_ite.mpr
    ⟨fun _ => foot_pure _, fun _ => foot_call_bind.mpr
      ⟨by simp, fun fd => foot_ite.mpr
        ⟨fun _ => foot_pure _, fun _ => foot_call_bind.mpr
          ⟨by simp, fun err => ?_⟩⟩⟩⟩⟩
  refine foot_ite.mpr ⟨fun _ => hclose _, fun _ => ?_⟩
  exact foot_call_bind.mpr ⟨by simp, fun _ => foot_call_bind.mpr
    ⟨by simp, fun _ => (exchange_foot text).bind hclose⟩⟩

theorem hologramSend_foot (cfg : Config) (innerJson : Text) :
    Foot [.plain, .send] [] (Hologram.hologramSend cfg innerJson) := by
  refine ((buildEnvelope_foot cfg innerJson).mono (by simp)
    (by simp)).bind fun e => ?_
  cases e with
  | error err => exact foot_pure _
  | ok text =>
      exact foot_ite.mpr ⟨fun _ => foot_pure _, fun _ => foot_ite.mpr
        ⟨fun _ => foot_pure _, fun _ => socketSendEnvelope_foot text⟩⟩

/-- A send goes through one transport or the other and writes no static. -/
theorem cloudSendTelemetry_foot (cfg : Config) (innerJson : Text) :
    Foot [.plain, .send] [] (cloudSendTelemetry cfg innerJson) := by
  cases h : cfg.cloudProvider with
  | nrfcloud => simp [cloudSendTelemetry, h, Nrf.cloudSendTelemetry]
  | hologram =>
      simp only [cloudSendTelemetry, h]
      exact (hologramSend_foot cfg innerJson).mono (by simp) (by simp)

/-- A location goes through its own call, over nRF Cloud alone. -/
theorem cloudSendLocation_foot (cfg : Config) (fix : TrackerFix) :
    Foot [.plain, .location] [] (cloudSendLocation cfg fix) := by
  cases h : cfg.cloudProvider <;>
    simp [cloudSendLocation, h, Nrf.cloudSendLocation]

-- ========================================================== the assistance

/-- The rate limit compares the clock with the last fetch. -/
theorem rateLimited_foot (cfg : Config) :
    Foot [.plain] [] (rateLimited cfg) := by
  simp [rateLimited]

theorem servingCellInfoGet_foot : Foot [.plain] [] servingCellInfoGet := by
  simp [servingCellInfoGet]

/-- A fetch downloads and injects, and stamps itself when both succeed. -/
theorem fetchAndInject_foot (cfg : Config) :
    Foot [.plain, .download, .inject] [.lastFetchUptimeMs]
      (fetchAndInject cfg) := by
  refine Foot.bind (p := gnssModemAgnssRequestGet)
    (by simp [gnssModemAgnssRequestGet]) fun asked => ?_
  cases agnssFrame cfg asked with
  | none => exact foot_pure _
  | some req =>
      exact (servingCellInfoGet_foot.mono (by simp) (by simp)).bind
        fun cell => by simp [Var.forall]

/-- The groups of `agnss_fetch_and_inject`, its own mark apart. -/
abbrev injectGroups : List Group :=
  [.plain, .download, .inject, .modemRun, .mark .gnssModemStop,
    .mark (.gnssModemStart .assistance)]

/-- Around it the receiver is stopped and started again where the build asks
for that, and the guard is on. -/
theorem agnssFetchAndInject_scoped (cfg : Config) :
    Scoped .agnssFetchAndInject injectGroups [.lastFetchUptimeMs]
      (agnssFetchAndInject cfg) := by
  have hfetch : Foot injectGroups [.lastFetchUptimeMs] (do
        watchdogGuardStart cfg.agnssBudgetSeconds
        let err ← fetchAndInject cfg
        watchdogGuardStop
        if cfg.agnssStopGnssDuringFetch then
          if (← gnssModemStart cfg .assistance) ≠ 0 then
            pure (- EIO)
          else
            pure err
        else
          pure err : P Int) := by
    refine ((watchdogGuardStart_foot _).mono (by simp) (by simp)).bind
      fun _ => ((fetchAndInject_foot cfg).mono (by simp) (by simp)).bind
      fun err => (watchdogGuardStop_foot.mono (by simp) (by simp)).bind
      fun _ => foot_ite.mpr ⟨fun _ => ?_, fun _ => foot_pure _⟩
    exact ((gnssModemStart_foot cfg .assistance).mono (by simp)
      (by simp)).bind fun r => by simp
  refine ⟨_, rfl, foot_ite.mpr ⟨fun _ => foot_pure _, fun _ => ?_⟩⟩
  refine ((rateLimited_foot cfg).mono (by simp) (by simp)).bind fun b =>
    foot_ite.mpr ⟨fun _ => foot_pure _, fun _ => foot_ite.mpr
      ⟨fun _ => ?_, fun _ => hfetch⟩⟩
  exact (gnssModemStop_foot.mono (by simp) (by simp)).bind fun _ => hfetch

/-- The groups of an assistance fetch. -/
abbrev fetchGroups : List Group := .mark .agnssFetchAndInject :: injectGroups

theorem agnssFetchAndInject_foot (cfg : Config) :
    Foot fetchGroups [.lastFetchUptimeMs] (agnssFetchAndInject cfg) :=
  (agnssFetchAndInject_scoped cfg).foot

-- ================================================================ main.c

/-- Asking for the registration changes nothing. -/
theorem lteIsRegistered_foot : Foot [.plain] [] lteIsRegistered := by
  simp [lteIsRegistered]

/-- Waiting for it takes one semaphore. -/
theorem lteEnsureConnected_scoped (cfg : Config) :
    Scoped .lteEnsureConnected [.plain] [] (lteEnsureConnected cfg) :=
  ⟨_, rfl, lteIsRegistered_foot.bind fun b => by simp⟩

theorem lteEnsureConnected_foot (cfg : Config) :
    Foot [.mark .lteEnsureConnected, .plain] [] (lteEnsureConnected cfg) :=
  (lteEnsureConnected_scoped cfg).foot

/-- A surge is found by reading the last jolt and the clock. -/
theorem surgeActive_scoped (cfg : Config) (motionCycle : Bool) :
    Scoped (.surgeActive motionCycle) [.plain, .lastEventLo] []
      (surgeActive cfg motionCycle) :=
  ⟨_, rfl, by simp [motionLastEventUptime]⟩

theorem surgeActive_foot (cfg : Config) (motionCycle : Bool) :
    Foot [.plain, .lastEventLo, .mark (.surgeActive motionCycle)] []
      (surgeActive cfg motionCycle) :=
  (surgeActive_scoped cfg motionCycle).foot.mono (by simp) (by simp)

/-- Whether assistance is wanted is decided without a call. -/
theorem agnssWanted_foot (cfg : Config) :
    Foot [] [] (agnssWanted cfg) := by
  simp [agnssWanted, gnssActiveSource, cloudIsReady_foot]

/-- The pattern looks at the supply and then at the battery. -/
theorem ledPattern_foot (cfg : Config) :
    Foot [.plain, .mark (.powerVbusPresent .ledPattern)] []
      (ledPattern cfg) := by
  refine foot_ite.mpr ⟨fun _ => foot_pure _, fun _ =>
    ((powerVbusPresent_foot .ledPattern).mono (by simp) (by simp)).bind
      fun b => foot_ite.mpr ⟨fun _ => foot_pure _, fun _ => ?_⟩⟩
  refine (powerRead_foot.mono (by simp) (by simp)).bind fun p => ?_
  cases p with
  | error err => exact foot_pure _
  | ok p => simp

/-- The LED is set by the registration and the fix, its pattern by the supply.
-/
theorem statusLedReport_foot (cfg : Config) (haveFix : Bool) :
    Foot [.plain, .mark (.powerVbusPresent .ledPattern)] []
      (statusLedReport cfg haveFix) := by
  have hset : ∀ lte, Foot [.plain, .mark (.powerVbusPresent .ledPattern)]
      [] (do
        statusLedSet cfg
          (if !lte then .noLte else if haveFix then .lteFix else .lteNoFix)
        statusLedPattern cfg (← ledPattern cfg)) := fun lte =>
    ((statusLedSet_foot cfg _).mono (by simp) (by simp)).bind fun _ =>
      (ledPattern_foot cfg).bind fun p =>
        (statusLedPattern_foot cfg p).mono (by simp) (by simp)
  refine foot_ite.mpr ⟨fun _ => hset true, fun _ => ?_⟩
  exact (lteIsRegistered_foot.mono (by simp) (by simp)).bind hset

/-- The groups a report goes through once its payload is built. -/
theorem sendReport_foot (cfg : Config) (payload : Text) :
    Foot [.plain, .send, .session, .mark .firstSend, .mark .retrySend,
      .mark .cloudResume] [.linkState, .modemTimeReady]
      (sendReport cfg payload) := by
  have hsend : ∀ f, f = .firstSend ∨ f = .retrySend →
      Foot [.plain, .send, .session, .mark .firstSend, .mark .retrySend,
        .mark .cloudResume] [.linkState, .modemTimeReady]
        (scope f (cloudSendTelemetry cfg payload)) := by
    intro f hf
    refine foot_scope.mpr ⟨by rcases hf with rfl | rfl <;> simp, ?_⟩
    exact (cloudSendTelemetry_foot cfg payload).mono (by simp) (by simp)
  refine (hsend _ (.inl rfl)).bind fun err => foot_ite.mpr
    ⟨fun _ => ?_, fun _ => foot_pure _⟩
  refine ((watchdogGuardStart_foot _).mono (by simp) (by simp)).bind
    fun _ => ((cloudResume_foot cfg).mono (by simp) (by simp)).bind
    fun err => (watchdogGuardStop_foot.mono (by simp) (by simp)).bind
    fun _ => foot_ite.mpr ⟨fun _ => hsend _ (.inr rfl), fun _ => foot_pure _⟩

/-- A report that went out stamps the send and shares its location. -/
theorem deliver_foot (cfg : Config) (fix : Option TrackerFix)
    (payload : Text) :
    Foot [.plain, .send, .session, .location, .mark .firstSend,
      .mark .retrySend, .mark .cloudResume]
      [.linkState, .modemTimeReady, .lastSendUptime]
      (deliver cfg fix payload) := by
  refine ((sendReport_foot cfg payload).mono (by simp) (by simp)).bind
    fun err => foot_ite.mpr ⟨fun _ => ?_, fun _ => by simp [watchdogFeed]⟩
  refine foot_call_bind.mpr ⟨by simp, fun now => foot_modify_bind.mpr
    ⟨by simp [Var.forall], ?_⟩⟩
  cases fix with
  | none => simp [watchdogFeed]
  | some fix =>
      exact ((cloudSendLocation_foot cfg fix).mono (by simp)
        (by simp)).bind fun _ => by simp [watchdogFeed]

/-- A report reads what it tells, marks its phase and is delivered. -/
theorem reportFix_scoped (cfg : Config) (fix : Option TrackerFix)
    (wakeUptimeMs : Nat) (wakeReason : WakeReason) :
    Scoped (.reportFix fix.isSome) [.plain, .send, .session, .location,
      .rsrp, .mark .firstSend, .mark .retrySend, .mark .cloudResume]
      [.linkState, .modemTimeReady, .phase, .lastSendUptime]
      (reportFix cfg fix wakeUptimeMs wakeReason) := by
  refine ⟨_, rfl, foot_call_bind.mpr ⟨by simp, fun now => ?_⟩⟩
  refine (powerRead_foot.mono (by simp) (by simp)).bind fun power => ?_
  refine foot_call_bind.mpr ⟨by simp, fun rsrp => ?_⟩
  refine ((watchdogPhase_foot _).mono (by simp) (by simp)).bind fun _ => ?_
  refine foot_get_bind.mpr fun s => ?_
  generalize telemetryBuildJson _ _ _ _ = built
  cases built with
  | error err => exact foot_pure _
  | ok payload => exact (deliver_foot cfg fix payload).mono (by simp) (by simp)

theorem reportFix_foot (cfg : Config) (fix : Option TrackerFix)
    (wakeUptimeMs : Nat) (wakeReason : WakeReason) :
    Foot [.mark (.reportFix fix.isSome), .plain, .send, .session, .location,
      .rsrp, .mark .firstSend, .mark .retrySend, .mark .cloudResume]
      [.linkState, .modemTimeReady, .phase, .lastSendUptime]
      (reportFix cfg fix wakeUptimeMs wakeReason) :=
  (reportFix_scoped cfg fix wakeUptimeMs wakeReason).foot

/-- Only here is the modem switched off or the tracker rebooted. -/
theorem recoverIfSilent_foot (cfg : Config) :
    Foot [.plain, .funcMode, .reboot, .mark .recoverIfSilent]
      [.modemBounced, .phase] (recoverIfSilent cfg) := by
  simp [recoverIfSilent, watchdogPhase, Var.forall]

/-- The groups of `battery_sleep`, its own mark apart. -/
abbrev sleepGroups : List Group :=
  [.plain, .trigger, .wake, .mark .statusLedSleep,
    .mark (.motionSetArmed true), .mark (.motionSetArmed false),
    .mark .wakeWait]

/-- And its variables. -/
abbrev sleepVars : List Var := [.phase, .batterySleeps, .armed]

/-- A battery sleep darkens the LED, arms or disarms, counts itself and waits.
-/
theorem batterySleep_scoped (cfg : Config) (site : SleepSite) :
    Scoped (.batterySleep site) sleepGroups sleepVars
      (batterySleep cfg site) := by
  refine ⟨_, rfl, foot_get_bind.mpr fun s =>
    ((watchdogPhase_foot _).mono (by simp) (by simp)).bind fun _ =>
    ((statusLedSleep_foot cfg).mono (by simp) (by simp)).bind fun _ =>
    ((watchdogPhase_foot _).mono (by simp) (by simp)).bind fun _ => ?_⟩
  have hwait : Foot sleepGroups sleepVars (do
        watchdogPhase .sleep
        wakeWait cfg.sleepSeconds) :=
    ((watchdogPhase_foot _).mono (by simp) (by simp)).bind fun _ =>
      (wakeWait_foot _).mono (by simp) (by simp)
  refine ((motionSetArmed_foot cfg _).mono ?_ (by simp)).bind fun _ =>
    foot_ite.mpr ⟨fun _ => foot_modify_bind.mpr
      ⟨by simp [Var.forall], hwait⟩, fun _ => hwait⟩
  intro g hg
  generalize decide (cfg.motionSettleCycles ≤ s.batterySleeps) = arm at hg
  rcases List.mem_cons.mp hg with rfl | hg
  · simp
  · cases List.mem_singleton.mp hg
    cases arm <;> simp

theorem batterySleep_foot (cfg : Config) (site : SleepSite) :
    Foot (.mark (.batterySleep site) :: sleepGroups) sleepVars
      (batterySleep cfg site) := (batterySleep_scoped cfg site).foot

/-- The top of a cycle restarts the count of sleeps where power woke it. -/
theorem topOfCycle_foot (wakeReason : WakeReason) :
    Foot [.plain, .mark (.cycle wakeReason)] [.phase, .batterySleeps]
      (topOfCycle wakeReason) := by
  simp [topOfCycle, watchdogPhase, watchdogFeed, Var.forall]

/-- The condition of the frequent loop looks and asks, and writes nothing. -/
theorem keepReporting_foot (cfg : Config) (site : VbusSite)
    (motionCycle : Bool) :
    Foot [.plain, .lastEventLo, .mark (.powerVbusPresent site),
      .mark (.surgeActive motionCycle)] []
      (keepReporting cfg site motionCycle) :=
  ((powerVbusPresent_foot site).mono (by simp) (by simp)).bind fun b =>
    foot_ite.mpr ⟨fun _ => foot_pure _, fun _ =>
      (surgeActive_foot cfg motionCycle).mono (by simp) (by simp)⟩

/-- Powered in the loop, the tracker disarms and forgets its sleeps. -/
theorem holdOffMotion_foot (cfg : Config) :
    Foot [.plain, .trigger, .mark (.powerVbusPresent .body),
      .mark (.motionSetArmed false)] [.armed, .batterySleeps]
      (holdOffMotion cfg) :=
  ((powerVbusPresent_foot .body).mono (by simp) (by simp)).bind fun b =>
    foot_ite.mpr ⟨fun _ => ((motionSetArmed_foot cfg false).mono (by simp)
      (by simp)).bind fun _ => by simp [Var.forall], fun _ => foot_pure _⟩

theorem radioInit_foot (cfg : Config) :
    Foot [.plain] [] (radioInit cfg) := by
  simp [radioInit]

-- ============================================== the cycle, part by part

/-- Assistance that is asked for is fetched under its own phase marker. -/
theorem assistIfAsked_foot (cfg : Config) {mark : P Unit}
    (hm : Foot [] [.phase] mark) :
    Foot fetchGroups [.lastFetchUptimeMs, .phase] (assistIfAsked cfg mark) := by
  refine ((agnssWanted_foot cfg).mono (by simp) (by simp)).bind fun b =>
    foot_ite.mpr ⟨fun _ => foot_pure _, fun _ => ?_⟩
  refine ((gnssAgnssRequestWait_foot _).mono (by simp) (by simp)).bind
    fun r => foot_ite.mpr ⟨fun _ => foot_pure _, fun _ => ?_⟩
  refine (hm.mono (by simp) (by simp)).bind fun _ =>
    ((agnssFetchAndInject_foot cfg).mono (by simp) (by simp)).bind
    fun r => foot_pure _

/-- The groups of the acquisition. -/
abbrev acquireGroups : List Group :=
  fetchGroups ++ fallbackGroups ++ [.mark .gnssFallback, .mark .gnssWaitFix]

/-- And its variables. -/
abbrev acquireVars : List Var :=
  [.lastFetchUptimeMs, .phase, .active, .powered]

/-- The acquisition: two waits at most, each with assistance before it, and a
last fetch. It is one case for each rung of the ladder. -/
theorem acquire_foot (cfg : Config) :
    Foot acquireGroups acquireVars (acquire cfg) := by
  have hassist : ∀ mark : P Unit, Foot [] [.phase] mark →
      Foot acquireGroups acquireVars (assistIfAsked cfg mark) :=
    fun mark hm => (assistIfAsked_foot cfg hm).mono (by simp) (by simp)
  have hwait : ∀ t, Foot acquireGroups acquireVars (gnssWaitFix cfg t) :=
    fun t => (gnssWaitFix_foot cfg t).mono (by simp) (by simp)
  have htime : Foot acquireGroups acquireVars (gnssFixTimeoutSeconds cfg) := by
    simp [gnssFixTimeoutSeconds]
  have hfallback : ∀ assisted, Foot acquireGroups acquireVars
      (acquireFallback cfg assisted) := fun assisted =>
    ((gnssFallback_foot cfg).mono (by simp) (by simp)).bind fun r =>
      foot_ite.mpr ⟨fun _ => foot_pure _, fun _ =>
        (hassist _ (foot_pure _)).bind fun asked => htime.bind fun t =>
          (hwait t).bind fun fix => foot_pure _⟩
  have hlast : Foot acquireGroups acquireVars (acquireAssisted cfg) :=
    ((agnssFetchAndInject_foot cfg).mono (by simp) (by simp)).bind fun r =>
      foot_ite.mpr ⟨fun _ => foot_pure _, fun _ =>
        (hwait _).bind fun fix => foot_pure _⟩
  refine (hassist _ (watchdogPhase_foot _)).bind fun asked =>
    ((watchdogPhase_foot _).mono (by simp) (by simp)).bind fun _ =>
    htime.bind fun t => (hwait t).bind fun fix => ?_
  -- the last resort: a fetch, unless one was made already
  have hnone : ∀ assisted : Bool, Foot acquireGroups acquireVars (do
      if assisted then (pure none : P (Option TrackerFix))
      else if ← agnssWanted cfg then acquireAssisted cfg
      else pure none) := fun assisted =>
    foot_ite.mpr ⟨fun _ => foot_pure _, fun _ =>
      ((agnssWanted_foot cfg).mono (by simp) (by simp)).bind fun b =>
        foot_ite.mpr ⟨fun _ => hlast, fun _ => foot_pure _⟩⟩
  -- the first wait decides whether the second receiver is tried
  cases fix with
  | ok fix => exact foot_pure _
  | error err =>
      have havailable : Foot acquireGroups acquireVars
          (gnssFallbackAvailable cfg) := by
        simp [gnssFallbackAvailable]
      refine havailable.bind fun b => foot_ite.mpr ⟨fun _ => ?_,
        fun _ => hnone _⟩
      refine (hfallback _).bind fun r => ?_
      obtain ⟨fix, assisted⟩ := r
      cases fix with
      | some fix => exact foot_pure _
      | none => exact hnone assisted

/-- The groups of a report. -/
abbrev reportGroups : List Group :=
  [.plain, .send, .session, .location, .rsrp, .mark (.reportFix true),
    .mark (.reportFix false), .mark .firstSend, .mark .retrySend,
    .mark .cloudResume, .mark (.powerVbusPresent .ledPattern)]

/-- And its variables. -/
abbrev reportVars : List Var :=
  [.linkState, .modemTimeReady, .phase, .lastSendUptime]

/-- A report or none, and the LED after it. -/
theorem reportOrSkip_foot (cfg : Config) (fix : Option TrackerFix)
    (wakeUptimeMs : Nat) (wr : WakeReason) :
    Foot reportGroups reportVars (reportOrSkip cfg fix wakeUptimeMs wr) := by
  have hled : ∀ b, Foot reportGroups reportVars (statusLedReport cfg b) :=
    fun b => (statusLedReport_foot cfg b).mono (by simp) (by simp)
  cases fix with
  | some fix =>
      exact ((reportFix_foot cfg (some fix) wakeUptimeMs wr).mono (by simp)
        (by simp)).bind fun _ => hled true
  | none =>
      refine foot_ite.mpr ⟨fun _ => ?_, fun _ => hled false⟩
      exact ((reportFix_foot cfg none wakeUptimeMs wr).mono (by simp)
        (by simp)).bind fun _ => hled false

/-- Settling sleeps and waits once more. -/
theorem settleFix_foot (cfg : Config) (fix : TrackerFix) :
    Foot [.mark .gnssWaitFix, .plain] [] (settleFix cfg fix) :=
  foot_ite.mpr ⟨fun _ => foot_call_bind.mpr ⟨by simp, fun _ =>
    (gnssWaitFix_foot cfg 5).bind fun r => foot_pure _⟩, fun _ => foot_pure _⟩

/-- The groups of the frequent reporting section. -/
abbrev frequentGroups : List Group :=
  reportGroups ++ [.trigger, .lastEventLo, .mark .gnssWaitFix,
    .mark (.motionSetArmed false), .mark (.surgeActive true),
    .mark (.surgeActive false), .mark (.powerVbusPresent .ifCond),
    .mark (.powerVbusPresent .logLine), .mark (.powerVbusPresent .whileCond),
    .mark (.powerVbusPresent .body)]

/-- And its variables. -/
abbrev frequentVars : List Var := reportVars ++ [.armed, .batterySleeps]

/-- A pass sleeps, waits and reports. -/
theorem frequentPass_foot (cfg : Config) (wakeUptimeMs : Nat)
    (wr : WakeReason) :
    Foot frequentGroups frequentVars
      (frequentPass cfg wakeUptimeMs wr) := by
  refine ((watchdogPhase_foot _).mono (by simp) (by simp)).bind fun _ =>
    ((holdOffMotion_foot cfg).mono (by simp) (by simp)).bind fun _ =>
    foot_call_bind.mpr ⟨by simp, fun _ => ?_⟩
  refine (watchdogFeed_foot.mono (by simp) (by simp)).bind fun _ =>
    ((gnssWaitFix_foot cfg _).mono (by simp) (by simp)).bind fun fix => ?_
  exact (reportOrSkip_foot cfg _ wakeUptimeMs wr).mono (by simp) (by simp)

/-- Any number of passes has the footprint of one, by induction on the fuel.
-/
theorem frequentLoop_foot (cfg : Config) (wakeUptimeMs : Nat)
    (wr : WakeReason) (mc : Bool) :
    ∀ fuel, Foot frequentGroups frequentVars
      (frequentLoop cfg wakeUptimeMs wr mc fuel) := by
  intro fuel
  induction fuel with
  | zero => exact foot_halt
  | succ fuel ih =>
      refine ((keepReporting_foot cfg .whileCond mc).mono ?_ (by simp)).bind
        fun b => foot_ite.mpr ⟨fun _ => ?_, fun _ => foot_pure _⟩
      · cases mc <;> simp
      · exact (frequentPass_foot cfg wakeUptimeMs wr).bind fun _ => ih

/-- The whole frequent section, its log line included. -/
theorem frequentReports_foot (cfg : Config) (fuel wakeUptimeMs : Nat)
    (wr : WakeReason) (mc : Bool) :
    Foot frequentGroups frequentVars
      (frequentReports cfg fuel wakeUptimeMs wr mc) := by
  refine ((keepReporting_foot cfg .ifCond mc).mono ?_ (by simp)).bind
    fun b => foot_ite.mpr ⟨fun _ => ?_, fun _ => foot_pure _⟩
  · cases mc <;> simp
  · exact ((powerVbusPresent_foot .logLine).mono (by simp) (by simp)).bind
      fun _ => frequentLoop_foot cfg wakeUptimeMs wr mc fuel

end GpsTracker
