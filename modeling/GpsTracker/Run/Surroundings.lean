/-
What the device does and leaves alone, call by call and move by move,
and the worlds `main` starts in.
-/
import GpsTracker.Run.Outline

namespace GpsTracker

open Proc

-- ================================================================= frames

variable {cfg : Config} {G : Ev → Trace → Prop}
variable {J W X Y R : Tracker → Prop}
variable {bad : List Group} {keep : List Var} {α : Type}

/-- A part with its footprint outside `bad` and `keep` keeps what the
frame keeps. -/
theorem part (F : Frame (device cfg) G J X (Off bad) (Keep keep))
    {g : List Group} {v : List Var} {p : P α} (h : Foot g v p)
    (hg : ∀ x ∈ g, x ∉ bad)
    (hv : ∀ x ∈ keep, x ∉ v) :
    Triple (device cfg) G J X p fun _ => X := F.keeps (h.off hg hv)

/-- A law that looks at neither plain calls nor the phase is quiet. -/
theorem quiet (F : Frame (device cfg) G J X (Off bad) (Keep keep))
    (hg : Group.plain ∉ bad)
    (hv : Var.phase ∉ keep) :
    Frame (device cfg) G J X (fun o => group o ∈ [.plain])
      (Touch [.phase]) :=
  F.mono (fun o ho => by rwa [Off, List.mem_singleton.mp ho])
    fun s s' hs v hk => hs v fun hm =>
      hv (List.mem_singleton.mp hm ▸ hk)

/-- Quiet to the calls a walk puts between the functions of `main`. -/
theorem quiet_unguarded
    (F : Frame (device cfg) G J X (Off bad) (Keep keep))
    (hg : Group.plain ∉ bad) (hv : Var.phase ∉ keep) :
    Frame (device cfg) G J X Unguarded (Touch [.phase]) :=
  (quiet F hg hv).mono (fun _ h => List.mem_singleton.mpr h.1)
    fun _ _ h => h

/-- A frame keeps what it says of the statics alone, too. -/
theorem keeps_static (F : Frame (device cfg) G J X (Off bad) (Keep keep))
    {q : Statics → Prop} (hq : ∀ s s', Keep keep s s' → q s → q s') :
    Frame (device cfg) G J (fun w => X w ∧ q w.st) (Off bad) (Keep keep) :=
  (F.static q).mono (fun _ h => h) fun s s' h => ⟨h, hq s s' h⟩

/-- A logged function: its entry, its body, its return. -/
theorem triple_scope [Code α] {f : Fn} {p : P α} {R : α → Tracker → Prop}
    {Q : α → Tracker → Prop}
    (he : Triple (device cfg) G J X (call (.enter f)) fun _ => Y)
    (hp : Triple (device cfg) G J Y p R)
    (hl : ∀ a, Triple (device cfg) G J (R a)
      (call (.leave f (Code.code a))) fun _ => Q a) :
    Triple (device cfg) G J X (scope f p) Q :=
  he.bind fun _ => hp.bind fun a => (hl a).bind fun _ =>
    Triple.ret fun _ h => h

/-- The same, with a body that keeps `Y`. -/
theorem triple_scoped [Code α] {f : Fn} {gs : List Group} {vs : List Var}
    {p : P α} {Q : α → Tracker → Prop} (h : Scoped f gs vs p)
    (F : Frame (device cfg) G J Y (Off bad) (Keep keep))
    (hg : ∀ x ∈ gs, x ∉ bad) (hv : ∀ x ∈ keep, x ∉ vs)
    (he : Triple (device cfg) G J X (call (.enter f)) fun _ => Y)
    (hl : ∀ a : α, Triple (device cfg) G J Y
      (call (.leave f (Code.code a))) fun _ => Q a) :
    Triple (device cfg) G J X p Q := by
  obtain ⟨body, rfl, hbody⟩ := h
  exact triple_scope he (part F hbody hg hv) hl

/-- A plain call keeps what a frame keeps that looks at none. -/
theorem plain_keeps (F : Frame (device cfg) G J X (Off bad) (Keep keep))
    {o : Op} (ho : group o = .plain)
    (hg : Group.plain ∉ bad) :
    Triple (device cfg) G J X (call o) fun _ => X :=
  part F (g := [.plain]) (v := [])
    (foot_call.mpr (List.mem_singleton.mpr ho)) (by simpa using hg)
    (by simp)

/-- An entry mark outside `bad` keeps what the frame keeps. -/
theorem enter_keeps (F : Frame (device cfg) G J X (Off bad) (Keep keep))
    {f : Fn} (hm : Group.mark f ∉ bad) :
    Triple (device cfg) G J X (call (.enter f)) fun _ => X :=
  part F (g := [.mark f]) (v := []) (by simp) (by simpa using hm)
    (by simp)

/-- So does a return mark. -/
theorem leave_keeps (F : Frame (device cfg) G J X (Off bad) (Keep keep))
    {f : Fn} {r : Int} (hm : Group.mark f ∉ bad) :
    Triple (device cfg) G J X (call (.leave f r)) fun _ => X :=
  part F (g := [.mark f]) (v := []) (by simp) (by simpa using hm)
    (by simp)

/-- `report_fix`'s sends: what one send and `cloud_resume` keep, they
keep. -/
theorem sendReport_sends (F : Frame (device cfg) G J X (Off bad) (Keep keep))
    {payload : Text} (hplain : Group.plain ∉ bad)
    (hmark : ∀ f, f = .firstSend ∨ f = .retrySend → Group.mark f ∉ bad)
    (hsend : Triple (device cfg) G J X (cloudSendTelemetry cfg payload)
      fun _ => X)
    (hresume : Triple (device cfg) G J X (cloudResume cfg) fun _ => X) :
    Triple (device cfg) G J X (sendReport cfg payload) fun _ => X := by
  have hone : ∀ f, f = .firstSend ∨ f = .retrySend →
      Triple (device cfg) G J X (scope f (cloudSendTelemetry cfg payload))
        fun _ => X := fun f hf =>
    triple_scope (enter_keeps F (hmark f hf)) hsend
      fun r => leave_keeps F (hmark f hf)
  refine (hone .firstSend (.inl rfl)).bind fun err => Triple.ite
    (fun _ => ?_) fun _ => Triple.ret fun w h => h
  refine (part F (watchdogGuardStart_foot _) (by simpa using hplain)
    (by simp)).bind fun _ => hresume.bind fun err =>
    (part F watchdogGuardStop_foot (by simpa using hplain)
      (by simp)).bind fun _ => ?_
  exact Triple.ite (fun _ => hone .retrySend (.inr rfl))
    fun _ => Triple.ret fun w h => h

/-- The same for a law that does not look at sends. -/
theorem sendReport_keeps (F : Frame (device cfg) G J X (Off bad) (Keep keep))
    {payload : Text} (hplain : Group.plain ∉ bad) (hsend : Group.send ∉ bad)
    (hmark : ∀ f, f = .firstSend ∨ f = .retrySend → Group.mark f ∉ bad)
    (hresume : Triple (device cfg) G J X (cloudResume cfg) fun _ => X) :
    Triple (device cfg) G J X (sendReport cfg payload) fun _ => X :=
  sendReport_sends F hplain hmark (part F (cloudSendTelemetry_foot cfg payload)
    (by simp [hplain, hsend]) (by simp)) hresume

/-- `report_fix` from its payload on: what its sends and the shared
location keep, it keeps. -/
theorem deliver_keeps (F : Frame (device cfg) G J X (Off bad) (Keep keep))
    {fix : Option TrackerFix} {payload : Text}
    (hplain : Group.plain ∉ bad) (hstamp : Var.lastSendUptime ∉ keep)
    (hsend : Triple (device cfg) G J X (sendReport cfg payload) fun _ => X)
    (hloc : ∀ fix, Triple (device cfg) G J X (cloudSendLocation cfg fix)
      fun _ => X) :
    Triple (device cfg) G J X (deliver cfg fix payload) fun _ => X := by
  have htail : ∀ err : Int, Triple (device cfg) G J X (do
      watchdogFeed
      pure err : P Int) fun _ => X := fun err =>
    (part F watchdogFeed_foot (by simpa using hplain) (by simp)).bind
      fun _ => Triple.ret fun w h => h
  refine hsend.bind fun err => Triple.ite (fun _ => ?_) fun _ => htail err
  refine (plain_keeps F (by rfl) hplain).bind fun now => ?_
  refine (part F (g := []) (v := [.lastSendUptime])
    (by simp [Var.forall]) (by simp) fun x hx hm => ?_).bind fun _ => ?_
  · rw [List.mem_singleton.mp hm] at hx
    exact hstamp hx
  cases fix with
  | none => exact htail err
  | some fix => exact (hloc fix).bind fun _ => htail err

/-- The stamp of an accepted report. -/
def withStamp (now : Int) (s : Statics) : Statics :=
  { s with lastSendUptime := now }

/-- `report_fix` from its payload on: `X` while nothing was accepted, `Z`
once an accepted report is stamped. -/
theorem deliver_stamps {Y : Int → Tracker → Prop} {Z : Tracker → Prop}
    {bad' : List Group} {keep' : List Var} {fix : Option TrackerFix}
    {payload : Text}
    (F : Frame (device cfg) G J X (Off bad) (Keep keep))
    (A : Frame (device cfg) G J Z (Off bad') (Keep keep'))
    (hplain : Group.plain ∉ bad) (hplain' : Group.plain ∉ bad')
    (hloc : Group.location ∉ bad')
    (hsend : Triple (device cfg) G J X (sendReport cfg payload)
      fun err w => if err = 0 then R w else X w)
    (hnow : Triple (device cfg) G J R (call .kUptimeGet) Y)
    (hstamp : ∀ now w, Y now w →
      J (w.wrote (withStamp now)) ∧ Z (w.wrote (withStamp now))) :
    Triple (device cfg) G J X (deliver cfg fix payload)
      fun r w => if r = 0 then Z w else X w := by
  refine hsend.bind fun err => Triple.ite (fun herr => ?_) fun herr => ?_
  · have htail : Triple (device cfg) G J Z (do
        watchdogFeed
        pure err : P Int) fun r w => if r = 0 then Z w else X w := by
      refine (part A watchdogFeed_foot (by simpa using hplain')
        (by simp)).bind fun _ => Triple.ret fun w h => ?_
      rwa [if_pos herr]
    simp only [if_pos herr]
    -- accepted: the stamp comes before the location fix
    refine hnow.bind fun now => Triple.bind (R := fun _ => Z)
      (Triple.modify (hstamp now)) fun _ => ?_
    cases fix with
    | none => exact htail
    | some fix =>
        exact (part A (cloudSendLocation_foot cfg fix)
          (by simp [hplain', hloc]) (by simp)).bind fun _ => htail
  -- refused: nothing is stamped
  · simp only [if_neg herr]
    refine (part F watchdogFeed_foot (by simpa using hplain)
      (by simp)).bind fun _ => Triple.ret fun w h => ?_
    rwa [if_neg herr]

/-- `report_fix` up to its payload, then as the delivery of what
`telemetry_build_json` makes of the latched phase goes on. -/
theorem report_built {Q : Int → Tracker → Prop} {fix : Option TrackerFix}
    {wakeUptimeMs : Nat} {wr : WakeReason}
    (F : Frame (device cfg) G J X (Off bad) (Keep keep))
    (hplain : Group.plain ∉ bad) (hrsrp : Group.rsrp ∉ bad)
    (hphase : Var.phase ∉ keep)
    (henter : Triple (device cfg) G J W (call (.enter (.reportFix fix.isSome)))
      fun _ => X)
    (hbig : ∀ w, X w → Q (-ENOMEM) w)
    (hdeliver : ∀ s t payload,
      telemetryBuildJson cfg s.phaseAtReset t 256 = .ok payload →
      Triple (device cfg) G J (fun w => X w ∧ w.st = s)
        (deliver cfg fix payload) Q)
    (hleave : ∀ r : Int, Triple (device cfg) G J (Q r)
      (call (.leave (.reportFix fix.isSome) r)) fun _ => Y) :
    Triple (device cfg) G J W (reportFix cfg fix wakeUptimeMs wr)
      fun _ => Y := by
  refine triple_scope henter ?_ hleave
  refine (plain_keeps F (by rfl) hplain).bind fun now =>
    (part F powerRead_foot (by simpa using hplain) (by simp)).bind
    fun power => (part F (g := [.rsrp]) (v := []) (by simp)
      (by simpa using hrsrp) (by simp)).bind fun rsrp => ?_
  refine (part F (watchdogPhase_foot .report) (by simp)
    fun x hx hv => ?_).bind fun _ => Triple.get fun s => ?_
  · rw [List.mem_singleton.mp hv] at hx
    exact hphase hx
  generalize telemetryOf _ _ _ _ _ _ = t
  cases hbuilt : telemetryBuildJson cfg s.phaseAtReset t 256 with
  | error err => exact Triple.ret fun w h => hbig w h.1
  | ok payload => exact hdeliver s t payload hbuilt

/-- The same for a law to which one payload is as good as another. -/
theorem report_body {Q : Int → Tracker → Prop} {fix : Option TrackerFix}
    {wakeUptimeMs : Nat} {wr : WakeReason}
    (F : Frame (device cfg) G J X (Off bad) (Keep keep))
    (hplain : Group.plain ∉ bad) (hrsrp : Group.rsrp ∉ bad)
    (hphase : Var.phase ∉ keep)
    (henter : Triple (device cfg) G J W (call (.enter (.reportFix fix.isSome)))
      fun _ => X)
    (hbig : ∀ w, X w → Q (-ENOMEM) w)
    (hdeliver : ∀ payload, Triple (device cfg) G J X
      (deliver cfg fix payload) Q)
    (hleave : ∀ r : Int, Triple (device cfg) G J (Q r)
      (call (.leave (.reportFix fix.isSome) r)) fun _ => Y) :
    Triple (device cfg) G J W (reportFix cfg fix wakeUptimeMs wr)
      fun _ => Y :=
  report_built F hplain hrsrp hphase henter hbig
    (fun _ _ payload _ => (hdeliver payload).pre fun _ h => h.1) hleave

/-- `report_fix` keeps what its delivery keeps. -/
theorem report_keeps (F : Frame (device cfg) G J X (Off bad) (Keep keep))
    {fix : Option TrackerFix} {wakeUptimeMs : Nat} {wr : WakeReason}
    (hplain : Group.plain ∉ bad) (hrsrp : Group.rsrp ∉ bad)
    (hm : Group.mark (.reportFix fix.isSome) ∉ bad)
    (hphase : Var.phase ∉ keep)
    (hdeliver : ∀ payload, Triple (device cfg) G J X
      (deliver cfg fix payload) fun _ => X) :
    Triple (device cfg) G J X (reportFix cfg fix wakeUptimeMs wr)
      fun _ => X :=
  report_body F hplain hrsrp hphase (enter_keeps F hm) (fun _ h => h) hdeliver
    fun _ => leave_keeps F hm

-- ================================================================== calls

/-- What a call of group `g` leaves as it was. -/
structure Spares (g : Group) (d d' : Dev) : Prop where
  now : d'.now = d.now
  vbus : d'.vbus = d.vbus
  queue : d'.queue = d.queue
  busy : d'.busy = d.busy
  lastEventHi : d'.lastEventHi = d.lastEventHi
  lastEventLo : d'.lastEventLo = d.lastEventLo
  modemOn : g ≠ .modemRun → d'.modemOn = d.modemOn
  pin : g ≠ .pin → d'.pin = d.pin
  uart : g ≠ .pm → d'.uart = d.uart
  trig : g ≠ .trigger → d'.trig = d.trig
  live : g ≠ .session → d'.live = d.live
  semWake : g ≠ .wake → d'.semWake = d.semWake
  pending : g ≠ .wake → d'.pending = d.pending

/-- Noting the time of a call spares everything. -/
private theorem spares_since (g : Group) (d : Dev) :
    Spares g d { d with since := d.now } :=
  ⟨rfl, rfl, rfl, rfl, rfl, rfl, fun _ => rfl, fun _ => rfl, fun _ => rfl,
    fun _ => rfl, fun _ => rfl, fun _ => rfl, fun _ => rfl⟩

/-- Every call spares what lies outside its group. -/
theorem effect_spares (o : Op) (r : o.Ret) (d : Dev) :
    Spares (group o) d (effect o r d) := by
  cases o with
  -- the calls that touch something, group by group; the rest note the time
  | semReset s => cases s <;> constructor <;> simp [effect, act, Dev.setSem]
  | semTake s ms =>
      cases s <;> simp only [effect, act] <;> split <;>
        constructor <;> simp [Dev.setSem]
  | pmAction dev resume =>
      cases dev <;> simp only [effect, act] <;> split <;>
        constructor <;> simp [Dev.setActive]
  | sensorTriggerSet on =>
      simp only [effect, act]
      split <;> constructor <;> simp
  | gnssRun on =>
      cases on with
      | true =>
          simp only [effect, act, if_true]
          split <;> constructor <;> simp
      | false => constructor <;> simp [effect, act]
  | gpioPinSet on =>
      simp only [effect, act]
      split <;> constructor <;> simp
  | gpioPinConfigure =>
      simp only [effect, act]
      split <;> constructor <;> simp
  | coapConnect =>
      simp only [effect, act]
      split <;> constructor <;> simp
  | coapResume =>
      simp only [effect, act]
      split <;> constructor <;> simp
  | coapDisconnect => constructor <;> simp [effect, act]
  | pendingSet p => constructor <;> simp [effect, act]
  | vbusConnectedSet b => constructor <;> simp [effect, act]
  | guardFeedsLeftSet n => constructor <;> simp [effect, act]
  | guardTimerSet run => constructor <;> simp [effect, act]
  | ledSet v => constructor <;> simp [effect, act]
  | ledChannels red green => constructor <;> simp [effect, act]
  | blinkSchedule ms => constructor <;> simp [effect, act]
  | _ => exact spares_since _ d

/-- Time passes by moves alone. -/
@[simp] theorem effect_now (o : Op) (r : o.Ret) (d : Dev) :
    (effect o r d).now = d.now := (effect_spares o r d).now

-- ============================================================= semaphores

/-- A call that leaves semaphore `t` unavailable. -/
def drains (t : Sem) : (o : Op) → o.Ret → Bool
  | .semReset s, _ => s == t
  | .semTake s _, r => s == t && r == (0 : Int)
  | _, _ => false

/-- Giving or taking one semaphore leaves the others. -/
@[simp] theorem sem_setSem (s t : Sem) (d : Dev) (b : Bool) :
    (d.setSem s b).sem t = if s = t then b else d.sem t := by
  cases s <;> cases t <;> rfl

private theorem sem_since (t : Sem) (d : Dev) (n : Nat) :
    ({ d with since := n } : Dev).sem t = d.sem t := by
  cases t <;> rfl

/-- Calls make no semaphore available. -/
theorem effect_sem (t : Sem) (o : Op) (r : o.Ret) (d : Dev) :
    (effect o r d).sem t = (!drains t o r && d.sem t) := by
  unfold effect
  rw [sem_since]
  cases o with
  | semReset s =>
      show (d.setSem s false).sem t = (!(s == t) && d.sem t)
      rw [sem_setSem]
      by_cases h : s = t <;> simp [h]
  | semTake s ms =>
      cases hr : (r == (0 : Int)) with
      | true =>
          simp only [act, drains, hr, if_true, sem_setSem, Bool.and_true]
          by_cases h : s = t <;> simp [h]
      | false => simp [act, drains, hr]
  | pmAction dev resume =>
      simp only [act, drains]
      split <;> cases dev <;> cases t <;> rfl
  | gnssRun on =>
      simp only [act, drains]
      split
      · split <;> cases t <;> rfl
      · cases t <;> rfl
  | sensorTriggerSet on | gpioPinSet on | gpioPinConfigure | coapConnect
  | coapResume =>
      simp only [act, drains]
      split <;> cases t <;> rfl
  | _ => cases t <;> rfl

/-- A call that takes or resets it leaves it unavailable, -/
theorem effect_drained {t : Sem} {o : Op} {r : o.Ret}
    (h : drains t o r = true) (d : Dev) : (effect o r d).sem t = false := by
  rw [effect_sem, h]
  rfl

/-- and any other leaves it as it was. -/
theorem effect_undrained {t : Sem} {o : Op} {r : o.Ret}
    (h : drains t o r = false) (d : Dev) :
    (effect o r d).sem t = d.sem t := by
  rw [effect_sem, h]
  rfl

/-- A wait succeeds exactly where the semaphore is available. -/
theorem take_answer {s : Sem} {ms : Nat} {a : Int} {d : Dev}
    (h : ok (.semTake s ms) a d = true) : a = 0 ↔ d.sem s = true := by
  have h' : (if d.sem s = true then a == 0 && decide (d.now ≤ d.since + ms)
    else a == -EAGAIN && decide (d.since + ms ≤ d.now)) = true := h
  split at h'
  next hs =>
    rw [Bool.and_eq_true, beq_iff_eq] at h'
    simp only [h'.1, hs]
  next hs =>
    rw [Bool.and_eq_true, beq_iff_eq] at h'
    have hne : (-EAGAIN : Int) ≠ 0 := by decide
    simp [h'.1, hne, hs]

-- ================================================================== moves

/-- What the device does to itself: time passes, a session may die, and
the receivers, the rails and the motion trigger stay as they are. -/
structure Drifts (d d' : Dev) : Prop where
  now : d.now ≤ d'.now
  since : d'.since = d.since
  modemOn : d'.modemOn = d.modemOn
  pin : d'.pin = d.pin
  uart : d'.uart = d.uart
  trig : d'.trig = d.trig
  live : d'.live = true → d.live = true

private theorem Micro.run_drifts (m : Micro) (d : Dev) :
    Drifts d (m.run d) := by
  cases m <;> exact ⟨Nat.le_refl _, rfl, rfl, rfl, rfl, rfl, id⟩

/-- Every own move drifts. -/
theorem move_drifts (cfg : Config) (a : Move) (d : Dev) :
    Drifts d (move cfg a d) := by
  cases a with
  | tick ms => exact ⟨Nat.le_add_right _ _, rfl, rfl, rfl, rfl, rfl, id⟩
  | sessionDies => exact ⟨Nat.le_refl _, rfl, rfl, rfl, rfl, rfl, nofun⟩
  | workStart =>
      simp only [move]
      split <;> exact ⟨Nat.le_refl _, rfl, rfl, rfl, rfl, rfl, id⟩
  | workStep =>
      simp only [move]
      split
      · exact ⟨Nat.le_refl _, rfl, rfl, rfl, rfl, rfl, id⟩
      next m ms _ =>
        have h := Micro.run_drifts m { d with busy := ms }
        exact ⟨h.now, h.since, h.modemOn, h.pin, h.uart, h.trig, h.live⟩
  | give s => cases s <;> exact ⟨Nat.le_refl _, rfl, rfl, rfl, rfl, rfl, id⟩
  | guardTick =>
      simp only [move]
      split <;> exact ⟨Nat.le_refl _, rfl, rfl, rfl, rfl, rfl, id⟩
  | _ => exact ⟨Nat.le_refl _, rfl, rfl, rfl, rfl, rfl, id⟩

/-- The moves that queue a handler or run one. -/
def Move.works : Move → Bool
  | .vbusIn | .vbusOut | .jolt | .workStart | .workStep => true
  | _ => false

/-- What a move that neither queues a handler nor runs one leaves. -/
structure Rests (d d' : Dev) : Prop where
  vbus : d'.vbus = d.vbus
  vbusConnected : d'.vbusConnected = d.vbusConnected
  queue : d'.queue = d.queue
  busy : d'.busy = d.busy
  lastEventHi : d'.lastEventHi = d.lastEventHi
  lastEventLo : d'.lastEventLo = d.lastEventLo
  pending : d'.pending = d.pending

/-- All other moves leave the work queue and what its handlers write. -/
theorem move_rests (cfg : Config) {a : Move} (ha : a.works = false)
    (d : Dev) : Rests d (move cfg a d) := by
  cases a with
  | vbusIn | vbusOut | jolt | workStart | workStep => cases ha
  | give s => cases s <;> exact ⟨rfl, rfl, rfl, rfl, rfl, rfl, rfl⟩
  | guardTick =>
      simp only [move]
      split <;> exact ⟨rfl, rfl, rfl, rfl, rfl, rfl, rfl⟩
  | _ => exact ⟨rfl, rfl, rfl, rfl, rfl, rfl, rfl⟩

/-- A step of a handler is off what is left of it, -/
@[simp] theorem Micro.run_busy (m : Micro) (d : Dev) :
    (m.run d).busy = d.busy := by
  cases m <;> rfl

/-- and leaves the handlers that wait. -/
@[simp] theorem Micro.run_queue (m : Micro) (d : Dev) :
    (m.run d).queue = d.queue := by
  cases m <;> rfl

/-- Whether a move may make semaphore `t` available: the wake semaphore is
given by handler steps, and LTE registration gives its own. -/
def Move.gives (t : Sem) : Move → Bool
  | .give s => s == t
  | .workStep => t == .wake
  | .lteReg _ => t == .lteConnected
  | _ => false

/-- All other moves leave it. -/
theorem move_sem (cfg : Config) {t : Sem} {a : Move}
    (ha : a.gives t = false) (d : Dev) :
    (move cfg a d).sem t = d.sem t := by
  cases a with
  | give s =>
      have hne : s ≠ t := fun h => by simp [Move.gives, h] at ha
      show (d.setSem s true).sem t = d.sem t
      rw [sem_setSem, if_neg hne]
  | workStart =>
      simp only [move]
      split <;> cases t <;> rfl
  | workStep =>
      simp only [move]
      split
      · rfl
      next m ms _ =>
        cases t with
        | wake => cases ha
        | _ => cases m <;> rfl
  | lteReg b =>
      cases t with
      | lteConnected => cases ha
      | _ => rfl
  | guardTick =>
      simp only [move]
      split <;> cases t <;> rfl
  | _ => cases t <;> rfl

/-- Only the steps of handlers give the wake semaphore. -/
theorem move_semWake (cfg : Config) {a : Move} {d : Dev}
    (hcan : can a d = true) (ha : a ≠ .workStep) :
    (move cfg a d).semWake = d.semWake := by
  refine move_sem cfg (t := .wake) ?_ d
  cases a with
  | workStep => exact absurd rfl ha
  | give s =>
      cases s with
      | wake => cases hcan
      | _ => rfl
  | _ => rfl

-- =============================================================== handlers

/-- Whether a handler calls `wake_signal`. -/
def Work.wakes : Work → Bool
  | .vbusDetected => true
  | .vbusRemoved => false
  | .motion => true

/-- Which handler the work queue starts. -/
def workWord : Ev → Option Work
  | .env _ d .workStart => d.queue.head?
  | _ => none

/-- The handler the work queue started last. -/
def atWork (l : Trace) : Option Work := l.findSome? workWord

/-- The handler that an event runs the last step of. -/
def returning (e : Ev) (l : Trace) : Option Work :=
  match e with
  | .env _ d .workStep => if d.busy.length = 1 then atWork l else none
  | _ => none

/-- What is left to run belongs to the handler started last. -/
def Manned (l : Trace) (d : Dev) : Prop :=
  d.busy = [] ∨ ∃ w t, atWork l = some w ∧ d.busy <:+ w.steps t

/-- A step that stores the low word of a stamp has those of `wake_signal`
left. -/
theorem storeLo_rest {w : Work} {t t' : Nat} {ms : List Micro}
    (h : .storeLo t' :: ms <:+ w.steps t) :
    w = .motion ∧ ms = wakeSignal .motion := by
  cases w <;>
    simp only [Work.steps, eventCallback, motionHandler, wakeSignal,
      List.cons_append, List.nil_append, List.suffix_cons_iff,
      List.suffix_nil, List.cons.injEq, reduceCtorEq, or_false, false_and,
      false_or] at h
  exact ⟨rfl, h.2⟩

/-- A step that stores a reason stores none but these. -/
theorem pend_reason {w : Work} {t : Nat} {r : WakeReason} {ms : List Micro}
    (h : .pend r :: ms <:+ w.steps t) : r = .vbus ∨ r = .motion := by
  cases w <;>
    simp only [Work.steps, eventCallback, motionHandler, wakeSignal,
      List.cons_append, List.nil_append, List.suffix_cons_iff,
      List.suffix_nil, List.cons.injEq, reduceCtorEq, or_false, false_and,
      false_or, Micro.pend.injEq] at h
  · exact .inl h.1
  · exact .inr h.1

/-- A handler that wakes gives the semaphore with its last step and with no
other. -/
theorem give_last {w : Work} {t : Nat} {m : Micro} {ms : List Micro}
    (h : m :: ms <:+ w.steps t) : m = .give ↔ ms = [] ∧ w.wakes = true := by
  cases w <;>
    simp only [Work.steps, eventCallback, motionHandler, wakeSignal,
      List.cons_append, List.nil_append, List.suffix_cons_iff,
      List.suffix_nil, List.cons.injEq, reduceCtorEq, or_false] at h
  case vbusDetected =>
    rcases h with ⟨rfl, rfl⟩ | ⟨rfl, rfl⟩ | ⟨rfl, rfl⟩ <;> simp [Work.wakes]
  case vbusRemoved =>
    obtain ⟨rfl, rfl⟩ := h
    simp [Work.wakes]
  case motion =>
    rcases h with ⟨rfl, rfl⟩ | ⟨rfl, rfl⟩ | ⟨rfl, rfl⟩ | ⟨rfl, rfl⟩ <;>
      simp [Work.wakes]

/-- Calls start and run no handler. -/
theorem manned_call {l : Trace} {d : Dev} (h : Manned l d) (s : Statics)
    (o : Op) (r : o.Ret) : Manned (.call s d o r :: l) (effect o r d) := by
  have hbusy : (effect o r d).busy = d.busy := (effect_spares o r d).busy
  unfold Manned
  rw [hbusy]
  exact h

/-- A started handler has all its steps to run, and a step leaves the rest
of them. -/
theorem manned_move {l : Trace} {d : Dev} (h : Manned l d) (s : Statics)
    (a : Move) : Manned (.env s d a :: l) (move cfg a d) := by
  cases a with
  | workStart =>
      cases hq : d.queue with
      | nil =>
          have hidle : (move cfg .workStart d).busy = d.busy := by
            simp only [move, hq]
          rcases h with h | ⟨w, t, hrun, hsuf⟩
          -- nothing is queued, so nothing starts
          · exact .inl (hidle.trans h)
          · refine .inr ⟨w, t, ?_, hidle ▸ hsuf⟩
            simpa [atWork, workWord, hq] using hrun
      | cons w q =>
          -- the new handler has all of its steps ahead
          refine .inr ⟨w, d.now, ?_, ?_⟩
          · simp [atWork, workWord, hq]
          · simp only [move, hq]
            exact List.suffix_refl _
  | workStep =>
      cases hb : d.busy with
      | nil =>
          refine .inl ?_
          simp only [move, hb]
      | cons m ms =>
          rcases h with h | ⟨w, t, hrun, hsuf⟩
          · rw [hb] at h
            cases h
          · refine .inr ⟨w, t, hrun, ?_⟩
            -- the step run is taken off the front: what is left is a suffix
            -- still
            have hms : (move cfg .workStep d).busy = ms := by
              simp only [move, hb, Micro.run_busy]
            rw [hb] at hsuf
            exact hms ▸ (List.suffix_cons m ms).trans hsuf
  | give t =>
      unfold Manned
      rw [(move_rests cfg rfl d).busy]
      exact h
  | guardTick =>
      unfold Manned
      rw [(move_rests cfg rfl d).busy]
      exact h
  | _ => exact h

-- ================================================================== clock

/-- A difference of uptimes in whole units of `k` milliseconds. -/
theorem units_le {a : Int} (ha : 0 ≤ a) {n k : Nat} (hk : 0 < k) :
    (n : Int) ≤ a.tdiv k ↔ ((n * k : Nat) : Int) ≤ a := by
  rw [Int.tdiv_eq_ediv_of_nonneg ha, Int.le_ediv_iff_mul_le (by omega),
    Int.natCast_mul]

/-- Nothing on record happened later than now. -/
def Chrono (w : Tracker) : Prop := ∀ e ∈ w.log, e.dev.now ≤ w.dev.now

/-- The log stays in order of time with a call on top, -/
theorem Chrono.called {w : Tracker} (h : Chrono w)
    (o : Op) (r : o.Ret) : Chrono (w.called (device cfg) o r) := by
  intro e he
  show e.dev.now ≤ (effect o r w.dev).now
  rw [effect_now]
  rcases List.mem_cons.mp he with rfl | he
  · exact Nat.le_refl _
  · exact h e he

/-- and with a move, since time does not go back. -/
theorem Chrono.moved {w : Tracker} (h : Chrono w)
    (a : Move) : Chrono (w.moved (device cfg) a) := by
  intro e he
  have hnow : w.dev.now ≤ (move cfg a w.dev).now := (move_drifts cfg a w.dev).now
  rcases List.mem_cons.mp he with rfl | he
  · exact hnow
  · exact Nat.le_trans (h e he) hnow

-- ================================================================= sleeps

/-- Which sleep an event enters. -/
def sleepWord : Ev → Option SleepSite
  | .call _ _ (.enter (.batterySleep site)) _ => some site
  | _ => none

/-- The thread is in the sleep at the end of a cycle. -/
def inLastSleep (l : Trace) : Bool :=
  l.findSome? sleepWord == some .endOfCycle

/-- `wake_wait`'s `k_sem_reset`. -/
def drainsWake : Ev → Bool
  | .call _ _ (.semReset .wake) _ => true
  | _ => false

/-- The marks of the three sleeps. -/
abbrev sleepCalls : List Group :=
  [.mark (.batterySleep .noNetwork), .mark (.batterySleep .gnssStart),
    .mark (.batterySleep .endOfCycle)]

/-- Only these marks say which sleep was entered last. -/
theorem inLastSleep_call {o : Op} (h : Off sleepCalls o)
    (s : Statics) (d : Dev) (r : o.Ret) (l : Trace) :
    inLastSleep (.call s d o r :: l) = inLastSleep l := by
  have hword : sleepWord (.call s d o r : Ev) = none := by
    cases o with
    | enter f =>
        cases f with
        | batterySleep site => cases site <;> exact absurd h (by simp [Off])
        | _ => rfl
    | _ => rfl
  simp only [inLastSleep, List.findSome?_cons, hword]

-- =================================================================== boot

/-- A world in which `main` starts: the source's initialisers, no handler
raised or running, no receiver running, nothing on record. The supply,
the rails, the clock and the retained words are anything. -/
structure Booted (cfg : Config) (w : Tracker) : Prop where
  st : ∃ magic phase, w.st = Statics.boot cfg magic phase
  queue : w.dev.queue = []
  busy : w.dev.busy = []
  semWake : w.dev.semWake = false
  trig : w.dev.trig = false
  modemOn : w.dev.modemOn = false
  lastEventHi : w.dev.lastEventHi = 0
  lastEventLo : w.dev.lastEventLo = 0
  log : w.log = []

/-- The groups of everything `main` does before its loop. -/
abbrev setUpGroups : List Group :=
  [.plain, .pin, .pm, .mark .gnssInit, .mark .gnssModemInit,
    .mark .gnssExtInit, .mark .cloudInit,
    .mark (.powerVbusPresent .ledPattern)]

/-- All that the set-up before the loop touches. -/
theorem setUp_foot :
    Foot setUpGroups
      [.phase, .latch, .wdtChannel, .usable, .ledAvailable, .externalUsable,
        .active, .credsOk] (setUp cfg) := by
  refine foot_call_bind.mpr ⟨by simp, fun err => ?_⟩
  refine foot_ite.mpr ⟨fun _ => foot_pure _, fun _ => ?_⟩
  refine (watchdogInit_foot.mono (by simp) (by simp)).bind fun _ => ?_
  refine foot_call_bind.mpr ⟨by simp, fun _ => ?_⟩
  refine (powerInit_foot.mono (by simp) (by simp)).bind fun _ => ?_
  refine ((motionInit_foot cfg).mono (by simp) (by simp)).bind fun _ => ?_
  refine ((statusLedInit_foot cfg).mono (by simp) (by simp)).bind fun _ => ?_
  refine ((gnssInit_foot cfg).mono (by simp) (by simp)).bind fun _ => ?_
  refine foot_ite.mpr ⟨fun _ => foot_pure _, fun _ => ?_⟩
  refine ((radioInit_foot cfg).mono (by simp) (by simp)).bind fun _ => ?_
  refine foot_ite.mpr ⟨fun _ => foot_pure _, fun _ => ?_⟩
  refine ((cloudInit_foot cfg).mono (by simp) (by simp)).bind fun _ => ?_
  exact ((statusLedReport_foot cfg false).mono (by simp)
    (by simp)).bind fun _ => foot_pure _

/-- A law about the latch sees `main` up to its loop as a call of the modem
library, `phase_init`, and a rest that keeps what both have made. -/
theorem setUp_latches (F : Frame (device cfg) G J X (Off bad) (Keep [.latch]))
    (hg : ∀ g ∈ setUpGroups, g ∉ bad)
    (hmodem : Triple (device cfg) G J Y (call (.lib .nrfModemLibInit))
      fun _ => W)
    (hinit : Triple (device cfg) G J W phaseInit fun _ => X) :
    Triple (device cfg) G J Y (setUp cfg) fun r w => r = 0 → X w := by
  have hdone : ∀ r : Int, Triple (device cfg) G J X (pure r : P Int)
      fun r w => r = 0 → X w := fun r => Triple.ret fun _ h _ => h
  have hpart : ∀ {α : Type} {gs : List Group} {vs : List Var} {p : P α},
      Foot gs vs p → gs ⊆ setUpGroups → Var.latch ∉ vs →
        Triple (device cfg) G J X p fun _ => X := fun h hs hv =>
    part F h (fun g hm => hg g (hs hm)) (by simpa using hv)
  have hwatchdog : Triple (device cfg) G J W watchdogInit fun _ => X := by
    refine hinit.bind fun _ => hpart (?_ : Foot [.plain] [.wdtChannel] _)
      (by simp) (by simp)
    simp [Var.forall]
  have hinfo : Triple (device cfg) G J X (call (.lib .modemInfoInit))
      fun _ => X := plain_keeps F (by rfl) (hg .plain (by simp))
  refine hmodem.bind fun err => Triple.ite
    (fun hne => Triple.ret fun _ _ h => absurd h hne) fun _ => ?_
  refine hwatchdog.bind fun _ => hinfo.bind fun _ =>
    (hpart powerInit_foot (by simp) (by simp)).bind fun _ =>
    (hpart (motionInit_foot cfg) (by simp) (by simp)).bind fun _ =>
    (hpart (statusLedInit_foot cfg) (by simp) (by simp)).bind fun _ =>
    (hpart (gnssInit_foot cfg) (by simp) (by simp)).bind fun _ => ?_
  refine Triple.ite (fun _ => hdone _) fun _ => ?_
  refine (hpart (radioInit_foot cfg) (by simp) (by simp)).bind fun _ =>
    Triple.ite (fun _ => hdone _) fun _ => ?_
  exact (hpart (cloudInit_foot cfg) (by simp) (by simp)).bind fun _ =>
    (hpart (statusLedReport_foot cfg false) (by simp) (by simp)).bind
    fun _ => hdone 0

-- ============================================================= one assertion

/-- What only the functions that use the network touch: calls. -/
abbrev networkGroups : List Group :=
  [.session, .send, .location, .download, .inject, .funcMode, .reboot,
    .mark .cloudInit, .mark .cloudResume, .mark .cloudPause,
    .mark .recoverIfSilent, .mark .agnssFetchAndInject, .mark .firstSend,
    .mark .retrySend, .mark (.reportFix true), .mark (.reportFix false)]

/-- And variables. -/
abbrev networkVars : List Var :=
  [.lastSendUptime, .modemBounced, .linkState, .credsOk, .modemTimeReady,
    .lastFetchUptimeMs]

/-- The points of a law with one assertion for the whole loop. -/
abbrev looping (X Y : Tracker → Prop) : Point → Tracker → Prop
  | .boot => Y
  | _ => X

/-- A law with one assertion for the whole loop, about the network alone,
owes something for the six functions that use it. -/
theorem outline_looping
    (F : Frame (device cfg) G J X (Off bad) (Keep keep))
    (hg : bad ⊆ networkGroups) (hv : keep ⊆ .latch :: networkVars)
    (B : Frame (device cfg) G J Y (fun o => group o ∈ [.plain])
      (Touch [.phase]))
    (setUp : Triple (device cfg) G J Y (setUp cfg) fun _ => X)
    (recover : Triple (device cfg) G J X (recoverIfSilent cfg) fun _ => X)
    (resume : Triple (device cfg) G J X (cloudResume cfg) fun _ => X)
    (fetch : Triple (device cfg) G J X (agnssFetchAndInject cfg) fun _ => X)
    (report : ∀ fix wakeUptimeMs wr, Triple (device cfg) G J X
      (reportFix cfg fix wakeUptimeMs wr) fun _ => X)
    (pause : Triple (device cfg) G J X (cloudPause cfg) fun _ => X) :
    Outline cfg G J (looping X Y) := by
  have N : Frame (device cfg) G J X (Off networkGroups)
      (Keep (.latch :: networkVars)) :=
    F.mono (fun _ h => h.mono hg) fun _ _ h v hm => h v (hv hm)
  exact
    { quiet := fun pt => by
        -- only the boot is outside the loop
        cases pt with
        | boot => exact B
        | _ => exact quiet N (by simp) (by simp)
      setUp := setUp.post fun _ _ h _ => h
      topOfCycle := fun wr => part N (topOfCycle_foot wr) (by simp) (by simp)
      recover := recover
      noLte := fun _ _ h => h
      lte := part N (lteEnsureConnected_foot cfg) (by simp) (by simp)
      offline := fun _ h => h
      resume := resume
      ledOn := part N (statusLedReport_foot cfg false) (by simp) (by simp)
      start := (part N (gnssStart_foot cfg) (by simp) (by simp)).post
        fun _ _ h => by split <;> exact h
      fetch := fetch.pre fun _ h => h.1
      wait := fun t => part N (gnssWaitFix_foot cfg t) (by simp) (by simp)
      fallback := part N (gnssFallback_foot cfg) (by simp) (by simp)
      report := report
      unreported := fun _ h => h
      ledTold := fun b => part N (statusLedReport_foot cfg b) (by simp)
        (by simp)
      keepIf := fun mc => (part N (keepReporting_foot cfg _ mc) (by simp)
        (by simp)).post fun _ _ h => by split <;> exact h
      logLine := part N (powerVbusPresent_foot _) (by simp) (by simp)
      keepWhile := fun mc => (part N (keepReporting_foot cfg _ mc)
        (by simp) (by simp)).post fun _ _ h => by split <;> exact h
      holdOff := part N (holdOffMotion_foot cfg) (by simp) (by simp)
      stop := part N (gnssStop_foot cfg) (by simp) (by simp)
      pause := fun _ => pause
      sleep := fun site => part N (batterySleep_foot cfg site) (by simp)
        (by simp) }

/-- The marks of the looks at the supply and the surge that decide about the
frequent loop. -/
abbrev supplyGroups : List Group :=
  [.mark (.powerVbusPresent .ifCond), .mark (.powerVbusPresent .whileCond),
    .mark (.surgeActive true), .mark (.surgeActive false)]

/-- A law with one assertion everywhere, about downloads or the condition of
the frequent loop, owes something for the two functions that see these. -/
theorem walk_holding (F : Frame (device cfg) G X X (Off bad) (Keep []))
    (hg : bad ⊆ .download :: supplyGroups)
    (acquire : Triple (device cfg) G X X (acquire cfg) fun _ => X)
    (keep : ∀ site mc, Triple (device cfg) G X X
      (keepReporting cfg site mc) fun _ => X) :
    Walk cfg G X fun _ => X := by
  have N : Frame (device cfg) G X X (Off (.download :: supplyGroups))
      (Keep []) := F.mono (fun _ h => h.mono hg) fun _ _ h => h
  have hreport : ∀ fix u wr, Triple (device cfg) G X X
      (reportOrSkip cfg fix u wr) fun _ => X := fun fix u wr =>
    part N (reportOrSkip_foot cfg fix u wr) (by simp) (by simp)
  have hfeed : Triple (device cfg) G X X watchdogFeed fun _ => X :=
    part N watchdogFeed_foot (by simp) (by simp)
  -- everything but the two is off the groups of the law
  exact
    { gives := fun _ h => h
      phase := fun _ p => part N (watchdogPhase_foot p) (by simp) (by simp)
      setUp := (part N setUp_foot (by simp) (by simp)).post fun _ _ h _ => h
      topOfCycle := fun wr => part N (topOfCycle_foot wr) (by simp) (by simp)
      network := fun _ _ => by
        -- a build without LTE has no network to bring up
        refine Triple.ite (fun _ => Triple.ret fun w h => h) fun _ => ?_
        refine (part N (recoverIfSilent_foot cfg) (by simp) (by simp)).bind
          fun _ => (part N (watchdogPhase_foot _) (by simp) (by simp)).bind
          fun _ => (part N (lteEnsureConnected_foot cfg) (by simp)
          (by simp)).bind fun r => Triple.ret fun w h => ?_
        split <;> exact h
      ledCut := part N (statusLedSet_foot cfg .noLte) (by simp) (by simp)
      guardStart := fun _ _ => part N (watchdogGuardStart_foot _) (by simp)
        (by simp)
      resume := fun _ _ => part N (cloudResume_foot cfg) (by simp) (by simp)
      guardStop := fun _ _ => part N watchdogGuardStop_foot (by simp) (by simp)
      ledOn := fun _ _ => part N (statusLedReport_foot cfg false) (by simp)
        (by simp)
      start := fun _ _ => (part N (gnssStart_foot cfg) (by simp)
        (by simp)).post fun _ _ h => by split <;> exact h
      acquire := fun _ _ => acquire
      firstReport := fun u wr fix => by
        cases fix with
        | none =>
            exact hfeed.bind fun _ => (hreport none u wr).bind fun _ => hfeed
        | some fix =>
            exact hfeed.bind fun _ => (part N (settleFix_foot cfg fix)
              (by simp) (by simp)).bind fun better =>
              (hreport (some better) u wr).bind fun _ => hfeed
      keepIf := fun _ _ => (keep _ _).post fun _ _ h => by
        split <;> exact h
      logLine := fun _ _ => part N (powerVbusPresent_foot _) (by simp)
        (by simp)
      keepWhile := fun _ _ => (keep _ _).post fun _ _ h => by
        split <;> exact h
      frequentPass := fun u wr => by
        refine (part N (watchdogPhase_foot _) (by simp) (by simp)).bind
          fun _ => (part N (holdOffMotion_foot cfg) (by simp) (by simp)).bind
          fun _ => Triple.bind (R := fun _ => X)
          (N.keeps (Within.op (by simp [Off]))) fun _ => hfeed.bind fun _ =>
          (part N (gnssWaitFix_foot cfg 10) (by simp) (by simp)).bind
          fun r => hreport r.toOption u wr
      stop := fun _ _ => part N (gnssStop_foot cfg) (by simp) (by simp)
      pause := fun _ => part N (cloudPause_foot cfg) (by simp) (by simp)
      sleep := fun site => part N (batterySleep_foot cfg site) (by simp)
        (by simp) }

-- ========================================================= the end of a cycle

/-- What a law about the end of a cycle may look at: the wait, the looks that
decide about the frequent loop, and which cycle it is. -/
abbrev closingGroups : List Group :=
  .wake :: .lastEventLo :: (supplyGroups
    ++ [.mark (.cycle .boot), .mark (.cycle .timer), .mark (.cycle .vbus),
      .mark (.cycle .motion)])

/-- The places of such a law: one assertion while a cycle runs, by its wake
reason, and one from the end of its frequent loop to its sleep. -/
abbrev closingAt (boot : Tracker → Prop) (top runs : WakeReason → Tracker → Prop)
    (ends : SleepSite → Tracker → Prop) : Place → Tracker → Prop
  | .boot => boot
  | .top wr => top wr
  | .during _ _ .done => ends .endOfCycle
  | .during _ wr _ => runs wr
  | .cut => ends .noNetwork
  | .off site => ends site
  | .bed site => ends site

/-- A law about the end of a cycle owes something for the top of the cycle,
for the condition of the frequent loop and for the sleep. -/
theorem walk_closing {boot : Tracker → Prop}
    {top runs : WakeReason → Tracker → Prop} {ends : SleepSite → Tracker → Prop}
    (B : Frame (device cfg) G J boot (Off closingGroups) (Keep []))
    (T : ∀ wr, Frame (device cfg) G J (top wr) (Off closingGroups) (Keep []))
    (S : ∀ wr, Frame (device cfg) G J (runs wr) (Off closingGroups) (Keep []))
    (E : ∀ site, Frame (device cfg) G J (ends site) (Off closingGroups)
      (Keep []))
    (begins : ∀ w, boot w → top .boot w)
    (topOfCycle : ∀ wr, Triple (device cfg) G J (top wr) (topOfCycle wr)
      fun _ => runs wr)
    (cut : ∀ wr site, site ≠ .endOfCycle → ∀ w, runs wr w → ends site w)
    (keep : ∀ wr site, site = .ifCond ∨ site = .whileCond →
      Triple (device cfg) G J (runs wr)
        (keepReporting cfg site (wr == .motion))
        fun b w => if b then runs wr w else ends .endOfCycle w)
    (sleep : ∀ site, Triple (device cfg) G J (ends site)
      (batterySleep cfg site) fun wr => top wr) :
    Walk cfg G J (closingAt boot top runs ends) := by
  have hreport : ∀ fix u wr, Triple (device cfg) G J (runs wr)
      (reportOrSkip cfg fix u wr) fun _ => runs wr := fun fix u wr =>
    part (S wr) (reportOrSkip_foot cfg fix u wr) (by simp) (by simp)
  have hfeed : ∀ wr, Triple (device cfg) G J (runs wr) watchdogFeed
      fun _ => runs wr := fun wr =>
    part (S wr) watchdogFeed_foot (by simp) (by simp)
  have hstay : ∀ {α : Type} {gs : List Group} {vs : List Var} {p : P α} (wr),
      Foot gs vs p → (∀ g ∈ gs, g ∉ closingGroups) →
        Triple (device cfg) G J (runs wr) p fun _ => runs wr :=
    fun wr h hg => part (S wr) h hg (by simp)
  exact
    { gives := fun _ h => B.gives _ h
      phase := fun pl p => by
        have hfoot := watchdogPhase_foot p
        cases pl with
        | boot => exact part B hfoot (by simp) (by simp)
        | top wr => exact part (T wr) hfoot (by simp) (by simp)
        | during u wr stage =>
            -- the frequent loop is over: the phase is set on the way into the
            -- sleep
            cases stage with
            | done => exact part (E _) hfoot (by simp) (by simp)
            | _ => exact hstay wr hfoot (by simp)
        | _ => exact part (E _) hfoot (by simp) (by simp)
      setUp := (part B setUp_foot (by simp) (by simp)).post
        fun _ w h _ => begins w h
      topOfCycle := topOfCycle
      network := fun _ wr => by
        refine Triple.ite (fun _ => Triple.ret fun w h => h) fun _ => ?_
        refine (hstay wr (recoverIfSilent_foot cfg) (by simp)).bind fun _ =>
          (hstay wr (watchdogPhase_foot _) (by simp)).bind fun _ =>
          (hstay wr (lteEnsureConnected_foot cfg) (by simp)).bind fun r =>
          Triple.ret fun w h => ?_
        -- without a network, and below without a receiver, the cycle is cut
        -- short
        split
        · exact h
        · exact cut wr .noNetwork (by simp) w h
      ledCut := part (E _) (statusLedSet_foot cfg .noLte) (by simp) (by simp)
      guardStart := fun _ wr => hstay wr (watchdogGuardStart_foot _) (by simp)
      resume := fun _ wr => hstay wr (cloudResume_foot cfg) (by simp)
      guardStop := fun _ wr => hstay wr watchdogGuardStop_foot (by simp)
      ledOn := fun _ wr => hstay wr (statusLedReport_foot cfg false) (by simp)
      start := fun _ wr => (hstay wr (gnssStart_foot cfg) (by simp)).post
        fun r w h => by
          split
          · exact h
          · exact cut wr .gnssStart (by simp) w h
      acquire := fun _ wr => hstay wr (acquire_foot cfg) (by simp)
      firstReport := fun u wr fix => by
        cases fix with
        | none =>
            exact (hfeed wr).bind fun _ => (hreport none u wr).bind fun _ =>
              hfeed wr
        | some fix =>
            exact (hfeed wr).bind fun _ =>
              (hstay wr (settleFix_foot cfg fix) (by simp)).bind fun better =>
              (hreport (some better) u wr).bind fun _ => hfeed wr
      keepIf := fun _ wr => keep wr .ifCond (.inl rfl)
      logLine := fun _ wr => hstay wr (powerVbusPresent_foot _) (by simp)
      keepWhile := fun _ wr => keep wr .whileCond (.inr rfl)
      frequentPass := fun u wr => by
        refine (hstay wr (watchdogPhase_foot _) (by simp)).bind fun _ =>
          (hstay wr (holdOffMotion_foot cfg) (by simp)).bind fun _ =>
          (plain_keeps (S wr) (by rfl) (by simp)).bind fun _ =>
          (hfeed wr).bind fun _ =>
          (hstay wr (gnssWaitFix_foot cfg 10) (by simp)).bind fun r =>
          hreport r.toOption u wr
      stop := fun _ _ => part (E _) (gnssStop_foot cfg) (by simp) (by simp)
      pause := fun site => part (E site) (cloudPause_foot cfg) (by simp)
        (by simp)
      sleep := sleep }

end GpsTracker
