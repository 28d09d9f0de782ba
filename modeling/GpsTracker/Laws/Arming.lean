/-
Motion is armed on battery, after its grace period (main.c, motion.c).

`battery_sleep` arms the accelerometer once `battery_sleeps` has reached
`TRACKER_MOTION_SETTLE_CYCLES`, and counts a sleep where it has not. The
count is restarted by the frequent loop's body, where it sees power, and
by a cycle that power woke. `battery_sleep` itself never looks at power:
a sleep entered under power arms like any other, or uses up a sleep of
the grace period, and so does power in the loop that its body misses. The
law below holds of the runs where power is seen in time.

# The invariant

As long as all power was seen, `battery_sleeps` is at most the number of
sleeps taken without power since power was last there. `R` below is what
a point of `main` knows of the record and the count.
-/
import GpsTracker.Run.Script

namespace GpsTracker

open Proc

variable {cfg : Config}

-- =============================================================== the record

/-- What an event says about the frequent loop: its condition is tried,
or failed. -/
def loopWord : Ev → Option Bool
  | .call _ _ (.enter (.powerVbusPresent .whileCond)) _ => some true
  | .call _ _ (.leave (.surgeActive _) r) _ =>
      if r = 0 then some false else none
  | _ => none

/-- The thread is in the frequent loop. -/
def inLoop (l : Trace) : Bool := (l.findSome? loopWord).getD false

/-- What an event says about the count: power is seen and it restarts, or
a battery sleep is entered. -/
def freshWord : Ev → Option Bool
  | .call _ _ (.leave (.powerVbusPresent .body) r) _ =>
      if r = 0 then none else some true
  | .call _ _ (.enter (.cycle wakeReason)) _ =>
      if wakeReason = .vbus then some true else none
  | .call _ _ (.enter (.batterySleep _)) _ => some false
  | _ => none

/-- Power was seen, and no battery sleep was entered since. -/
def fresh (l : Trace) : Bool := (l.findSome? freshWord).getD false

/-- An event that enters a battery sleep, with or without power. -/
def bedWord : Ev → Option Bool
  | .call _ d (.enter (.batterySleep _)) _ => some d.vbus
  | _ => none

/-- The last battery sleep was entered under power. -/
def powerAtSleep (l : Trace) : Bool := (l.findSome? bedWord).getD false

/-- Power is there at an event that counts: at a battery sleep, as a wake
reason, or anywhere in the frequent loop. -/
def powerInstant (e : Ev) (l : Trace) : Bool :=
  match e with
  | .call _ d (.enter (.batterySleep _)) _ => d.vbus
  | .call _ _ (.enter (.cycle wakeReason)) _ => wakeReason == .vbus
  | e => inLoop l && e.dev.vbus

/-- The battery sleeps entered without power since power was last there,
if it ever was. -/
def sleepsSince : Trace → Option Nat
  | [] => none
  | e :: l =>
      if powerInstant e l then some 0
      else if bedWord e = some false then (sleepsSince l).map (· + 1)
      else sleepsSince l

/-- Power was there, and the count has not restarted since. -/
def unseen : Trace → Bool
  | [] => false
  | e :: l =>
      if freshWord e = some true then false
      else (powerInstant e l && !fresh (e :: l)) || unseen l

/-- The grace period is over: more sleeps were taken than it lasts. -/
def late (cfg : Config) (l : Trace) : Bool :=
  match sleepsSince l with
  | none => true
  | some k => decide (cfg.motionSettleCycles < k)

/-- A sleep that starts with the accelerometer armed was entered without
power and after the grace period. -/
def armedOnBattery (cfg : Config) : Ev → Trace → Bool
  | .call _ d (.enter .wakeWait) _, l =>
      !d.trig || (!powerAtSleep l && late cfg l)
  | _, _ => true

abbrev ArmedOnBattery (cfg : Config) (e : Ev) (l : Trace) : Prop :=
  armedOnBattery cfg e l

/-- A battery sleep that finds the count run out is entered without power
and finds all power before it seen, and the accelerometer lets itself be
disarmed there. -/
def powerSeen (cfg : Config) : Ev → Trace → Bool
  | .call s d (.enter (.batterySleep _)) _, l =>
      decide (s.batterySleeps < cfg.motionSettleCycles)
        || (!d.vbus && (cfg.motionSettleCycles == 0 || !unseen l))
  | .call _ _ (.sensorTriggerSet false) r, l => inLoop l || r == (0 : Int)
  | _, _ => true

/-- `powerSeen` as a proviso on the steps of a run. -/
abbrev PowerSeen (cfg : Config) (e : Ev) (l : Trace) : Prop :=
  powerSeen cfg e l

-- ============================================================== assertions

/-- The marks that the record turns on. -/
abbrev armingMarks : List Group :=
  [.mark .wakeWait, .mark (.batterySleep .noNetwork),
    .mark (.batterySleep .gnssStart), .mark (.batterySleep .endOfCycle),
    .mark (.cycle .boot), .mark (.cycle .timer), .mark (.cycle .vbus),
    .mark (.cycle .motion), .mark (.powerVbusPresent .body)]

/-- Trying the condition of the frequent loop. -/
abbrev whileMark : List Group := [.mark (.powerVbusPresent .whileCond)]

/-- The promise at every step. -/
abbrev ArmedWell (cfg : Config) (w : Tracker) : Prop :=
  Always (ArmedOnBattery cfg) w.log

/-- The interrupt is set as the driver believes, on a usable sensor, and
`R` is known of the record and the count. -/
structure Met (cfg : Config) (R : Trace → Nat → Prop) (w : Tracker) :
    Prop where
  kept : ArmedWell cfg w
  wired : w.dev.trig = w.st.armed
  usable : w.st.armed = true → cfg.motionWake = true ∧ w.st.usable = true
  record : R w.log w.st.batterySleeps

/-- What is known of the record outlives everything but the calls of
`bad` and the marks it turns on. -/
structure Lasts (bad : List Group) (R : Trace → Nat → Prop) : Prop where
  move : ∀ s d a l n, R l n → R (.env s d a :: l) n
  call : ∀ s d o r l n, Off (bad ++ armingMarks) o → R l n →
    R (.call s d o r :: l) n

/-- While all power was seen the count is behind the sleeps taken. -/
def Bounded (l : Trace) (n : Nat) : Prop :=
  unseen l = false → ∀ k, sleepsSince l = some k → n ≤ k

/-- The count is bounded, and zero right after power was seen. -/
def Counting (l : Trace) (n : Nat) : Prop :=
  Bounded l n ∧ (fresh l = true → n = 0)

/-- Counting, outside the frequent loop. -/
def Parked (l : Trace) (n : Nat) : Prop := Counting l n ∧ inLoop l = false

/-- At the top of a cycle; where power woke it, the count is still to be
restarted. -/
def Woken (c : Prop) (l : Trace) (n : Nat) : Prop :=
  (c → Counting l n) ∧ inLoop l = false

/-- In a battery sleep that has not counted itself yet: it may arm only
where the count has run out. -/
def Bedded (cfg : Config) (l : Trace) (n : Nat) : Prop :=
  Bounded l (n + 1) ∧ fresh l = false ∧ inLoop l = false ∧
    (cfg.motionSettleCycles ≤ n → powerAtSleep l = false ∧ late cfg l = true)

/-- On the way into the wait: parked, and fit to start armed where `arm`
says so. -/
def Going (cfg : Config) (arm : Bool) (l : Trace) (n : Nat) : Prop :=
  Parked l n ∧ (arm = true → powerAtSleep l = false ∧ late cfg l = true)

-- ========================================================= ordinary events

/-- An event the record does not turn on. -/
structure Ordinary (e : Ev) : Prop where
  instant : ∀ l, powerInstant e l = (inLoop l && e.dev.vbus)
  bed : bedWord e = none
  count : freshWord e = none

/-- A move of the device is ordinary, -/
theorem Ordinary.env (s : Statics) (d : Dev) (a : Move) :
    Ordinary (.env s d a : Ev) := ⟨fun _ => rfl, rfl, rfl⟩

/-- and so is the return of any function but the look at VBUS, -/
theorem Ordinary.leave {f : Fn} (h : f ≠ .powerVbusPresent .body)
    (s : Statics) (d : Dev) (r : Int) (u : Unit) :
    Ordinary (.call s d (.leave f r) u : Ev) := by
  refine ⟨fun _ => rfl, rfl, ?_⟩
  cases f with
  | powerVbusPresent site =>
      cases site <;> first
        | rfl
        | exact absurd rfl h
  | _ => rfl

/-- and any call outside the groups that the record turns on. -/
theorem Ordinary.call {o : Op} (h : Off armingMarks o) (s : Statics)
    (d : Dev) (r : o.Ret) : Ordinary (.call s d o r : Ev) := by
  cases o with
  | enter f =>
      cases f with
      | cycle wr => cases wr <;> exact absurd h (by simp [Off])
      | batterySleep site => cases site <;> exact absurd h (by simp [Off])
      | _ => exact ⟨fun _ => rfl, rfl, rfl⟩
  | leave f code =>
      refine Ordinary.leave (fun hf => ?_) s d code r
      rw [hf] at h
      exact absurd h (by simp [Off])
  | _ => exact ⟨fun _ => rfl, rfl, rfl⟩

namespace Ordinary

variable {e : Ev} (h : Ordinary e) {l : Trace} {n : Nat}
include h

/-- An ordinary event leaves everything the record keeps as it was, but for
what it may add while main loops: the freshness of the last look, -/
theorem fresh_cons : fresh (e :: l) = fresh l := by
  simp only [fresh, List.findSome?_cons, h.count]

/-- the power at the last sleep, -/
theorem powerAtSleep_cons : powerAtSleep (e :: l) = powerAtSleep l := by
  simp only [powerAtSleep, List.findSome?_cons, h.bed]

/-- the sleeps since power was last there, unless power is there now, in the
loop, -/
theorem sleepsSince_cons : sleepsSince (e :: l)
    = if inLoop l && e.dev.vbus then some 0 else sleepsSince l := by
  rw [sleepsSince, h.instant, h.bed]
  simp

/-- and whether there was power that no look has seen. -/
theorem unseen_cons : unseen (e :: l)
    = ((inLoop l && e.dev.vbus && !fresh l) || unseen l) := by
  rw [unseen, h.count, h.instant, h.fresh_cons]
  simp

/-- Power counts as seen while the count is fresh, and then the count is
zero. -/
theorem counting (hc : Counting l n) : Counting (e :: l) n := by
  refine ⟨fun hu k hk => ?_, fun hs => hc.2 (h.fresh_cons.symm.trans hs)⟩
  rw [h.unseen_cons] at hu
  rw [h.sleepsSince_cons] at hk
  obtain ⟨hnow, hbefore⟩ := Bool.or_eq_false_iff.mp hu
  cases hp : (inLoop l && e.dev.vbus) with
  | false =>
      rw [hp] at hk
      exact hc.1 hbefore k hk
  | true =>
      rw [hp, Bool.true_and, Bool.not_eq_false'] at hnow
      rw [hc.2 hnow]
      exact Nat.zero_le k

/-- Outside the loop the record stays. -/
theorem since_parked (hl : inLoop l = false) :
    sleepsSince (e :: l) = sleepsSince l := by
  rw [h.sleepsSince_cons, hl]
  simp

/-- Outside the loop it changes nothing of whether the grace is over, -/
theorem late_parked (hl : inLoop l = false) :
    late cfg (e :: l) = late cfg l := by
  simp only [late, h.since_parked hl]

/-- nor of the bound on the count, -/
theorem bounded_parked (hl : inLoop l = false) (hb : Bounded l n) :
    Bounded (e :: l) n := by
  intro hu k hk
  rw [h.since_parked hl] at hk
  rw [h.unseen_cons, hl] at hu
  exact hb (by simpa using hu) k hk

/-- nor of what is known in a sleep that has not counted itself -/
theorem bedded (hl : inLoop (e :: l) = false) (hb : Bedded cfg l n) :
    Bedded cfg (e :: l) n := by
  obtain ⟨hbound, hfresh, hpark, hfit⟩ := hb
  refine ⟨h.bounded_parked hpark hbound, h.fresh_cons.trans hfresh, hl, ?_⟩
  rw [h.powerAtSleep_cons, h.late_parked hpark]
  exact hfit

/-- or is on its way into the wait. -/
theorem going {arm : Bool} (hl : inLoop (e :: l) = false)
    (hg : Going cfg arm l n) : Going cfg arm (e :: l) n := by
  obtain ⟨⟨hcount, hpark⟩, hfit⟩ := hg
  refine ⟨⟨h.counting hcount, hl⟩, ?_⟩
  rw [h.powerAtSleep_cons, h.late_parked hpark]
  exact hfit

end Ordinary

/-- An event that says nothing of the loop, or closes it, does not open it, -/
private theorem inLoop_word {e : Ev} {l : Trace}
    (h : loopWord e = none ∨ loopWord e = some false)
    (hl : inLoop l = false) : inLoop (e :: l) = false := by
  rcases h with h | h
  · simpa only [inLoop, List.findSome?_cons, h] using hl
  · simp only [inLoop, List.findSome?_cons, h, Option.getD_some]

/-- and no return says that it is open. -/
private theorem inLoop_leave (f : Fn) (s : Statics) (d : Dev) (r : Int)
    (u : Unit) {l : Trace} (hl : inLoop l = false) :
    inLoop (.call s d (.leave f r) u :: l) = false := by
  refine inLoop_word ?_ hl
  cases f with
  | surgeActive b =>
      simp only [loopWord]
      split
      · exact .inr rfl
      · exact .inl rfl
  | _ => exact .inl rfl

/-- Only trying its condition enters the loop. -/
private theorem inLoop_call {o : Op} (h : Off whileMark o) (s : Statics)
    (d : Dev) (r : o.Ret) {l : Trace} (hl : inLoop l = false) :
    inLoop (.call s d o r :: l) = false := by
  cases o with
  | enter f =>
      refine inLoop_word (.inl ?_) hl
      cases f with
      | powerVbusPresent site =>
          cases site <;> first
            | rfl
            | exact absurd h (by simp [Off])
      | _ => rfl
  | leave f code => exact inLoop_leave f s d code r hl
  | _ => exact inLoop_word (.inl rfl) hl

/-- A bounded count lasts over ordinary events wherever the thread is. -/
theorem counting_lasts : Lasts [] Counting where
  move := fun s d a _ _ h => (Ordinary.env s d a).counting h
  call := fun s d _ r _ _ ho h =>
    (Ordinary.call (ho.mono (by simp)) s d r).counting h

/-- What ordinary events keep outside the loop lasts there. -/
theorem Lasts.parked {R : Trace → Nat → Prop}
    (hpark : ∀ l n, R l n → inLoop l = false)
    (h : ∀ e l n, Ordinary e → inLoop (e :: l) = false → R l n →
      R (e :: l) n) : Lasts whileMark R where
  move := fun s d a l n hr =>
    h _ l n (Ordinary.env s d a) (hpark l n hr) hr
  call := fun s d _ r l n ho hr =>
    h _ l n (Ordinary.call (ho.mono (by simp)) s d r)
      (inLoop_call (ho.mono (by simp)) s d r (hpark l n hr)) hr

/-- The states outside the loop last over those that do not open it: parked,
-/
theorem parked_lasts : Lasts whileMark Parked :=
  .parked (fun _ _ h => h.2) fun _ _ _ he hl h => ⟨he.counting h.1, hl⟩

/-- at the top of a cycle, -/
theorem woken_lasts (c : Prop) : Lasts whileMark (Woken c) :=
  .parked (fun _ _ h => h.2) fun _ _ _ he hl h =>
    ⟨fun hc => he.counting (h.1 hc), hl⟩

/-- in a sleep that has not counted itself, with its count pinned, -/
theorem bedded_lasts (cfg : Config) (m : Nat) :
    Lasts whileMark fun l n => Bedded cfg l n ∧ n = m :=
  .parked (fun _ _ h => h.1.2.2.1) fun _ _ _ he hl h =>
    ⟨he.bedded hl h.1, h.2⟩

/-- and on the way into the wait. -/
theorem going_lasts (arm : Bool) : Lasts whileMark (Going cfg arm) :=
  .parked (fun _ _ h => h.1.2) fun _ _ _ he hl h => he.going hl h

-- ================================================================== frames

variable {bad : List Group} {R R' : Trace → Nat → Prop}

/-- Only the wait of a sleep can break the promise. -/
private theorem armedOnBattery_call {o : Op} (h : Off [.mark .wakeWait] o)
    (s : Statics) (d : Dev) (r : o.Ret) (l : Trace) :
    ArmedOnBattery cfg (.call s d o r : Ev) l := by
  cases o with
  | enter f =>
      cases f with
      | wakeWait => exact absurd h (by simp [Off])
      | _ => rfl
  | _ => rfl

/-- What lasts of the record is kept by everything but the trigger. -/
theorem met_frame (hR : Lasts bad R) :
    Frame (device cfg) (PowerSeen cfg) (ArmedWell cfg) (Met cfg R)
      (Off (.trigger :: (bad ++ armingMarks)))
      (Keep [.armed, .usable, .batterySleeps]) where
  stable := fun w a h _ _ =>
    ⟨⟨rfl, h.kept⟩, (move_drifts cfg a w.dev).trig.trans h.wired, h.usable,
      hR.move _ _ _ _ _ h.record⟩
  calls := by
    intro w o r ho h _ _
    have htrig : (effect o r w.dev).trig = w.dev.trig :=
      (effect_spares o r w.dev).trig (ho.ne (by simp))
    exact ⟨⟨armedOnBattery_call (ho.mono (by simp)) .., h.kept⟩,
      htrig.trans h.wired, h.usable,
      hR.call _ _ _ _ _ _ (ho.mono (by simp)) h.record⟩
  writes := by
    intro w f hf h
    have harmed : (f w.st).armed = w.st.armed := hf .armed (by simp)
    have husable : (f w.st).usable = w.st.usable := hf .usable (by simp)
    have hcount : (f w.st).batterySleeps = w.st.batterySleeps :=
      hf .batterySleeps (by simp)
    refine ⟨h.kept, h.wired.trans harmed.symm, fun ha => ?_, ?_⟩
    · show _ ∧ (f w.st).usable = true
      rw [husable]
      exact h.usable (harmed ▸ ha)
    · show R w.log (f w.st).batterySleeps
      rw [hcount]
      exact h.record
  gives := fun w h => h.kept

/-- One call on which the record turns, made with the accelerometer left
alone. -/
theorem turn (hR : Lasts bad R) {o : Op}
    (ho : Off [.trigger, .mark .wakeWait] o) {Q : o.Ret → Trace → Nat → Prop}
    (h : ∀ s d r l, PowerSeen cfg (.call s d o r) l → R l s.batterySleeps →
      Q r (.call s d o r :: l) s.batterySleeps) :
    Triple (device cfg) (PowerSeen cfg) (ArmedWell cfg) (Met cfg R)
      (call o) fun r => Met cfg (Q r) := by
  refine Triple.op (met_frame hR).stable fun w r hw hok hG => ?_
  have hkept : ArmedWell cfg (w.called (device cfg) o r) :=
    ⟨armedOnBattery_call (ho.mono (by simp)) .., hw.kept⟩
  have htrig : (effect o r w.dev).trig = w.dev.trig :=
    (effect_spares o r w.dev).trig (ho.ne (by simp))
  exact ⟨hkept, hkept, htrig.trans hw.wired, hw.usable,
    h _ _ _ _ hG.1 hw.record⟩

/-- A write of the count. -/
theorem recount {f : Nat → Nat}
    (h : ∀ l n, R l n → R' l (f n)) :
    Triple (device cfg) (PowerSeen cfg) (ArmedWell cfg) (Met cfg R)
      (Prog.modify fun s => { s with batterySleeps := f s.batterySleeps })
      fun _ => Met cfg R' :=
  Triple.modify fun _ hw =>
    ⟨hw.kept, hw.kept, hw.wired, hw.usable, h _ _ hw.record⟩

/-- A weaker relation between record and count does. -/
theorem met_mono {w : Tracker} (h : ∀ l n, R l n → R' l n)
    (hw : Met cfg R w) : Met cfg R' w :=
  ⟨hw.kept, hw.wired, hw.usable, h _ _ hw.record⟩

-- ======================================================= the accelerometer

/-- Set or not, the interrupt is as the driver is about to believe. -/
private theorem sensorTriggerSet_met (hR : Lasts whileMark R) (arm : Bool) :
    Triple (device cfg) (PowerSeen cfg) (ArmedWell cfg)
      (fun w => Met cfg R w ∧ cfg.motionWake = true ∧ w.st.usable = true)
      (call (.sensorTriggerSet arm)) fun (r : Int) w =>
        if r = 0 then
          Met cfg R (w.wrote fun s => { s with armed := arm })
        else Met cfg R w ∧ (arm = false → inLoop w.log = true) := by
  have hs : Stable (device cfg) (PowerSeen cfg) fun w : Tracker =>
      Met cfg R w ∧ cfg.motionWake = true ∧ w.st.usable = true :=
    (met_frame hR).stable.and (Stable.static fun s : Statics =>
      cfg.motionWake = true ∧ s.usable = true)
  refine Triple.op hs fun w r h hok hG => ?_
  obtain ⟨hmet, hwake, husable⟩ := h
  have hkept : ArmedWell cfg
      (w.called (device cfg) (.sensorTriggerSet arm) r) :=
    ⟨rfl, hmet.kept⟩
  have hrecord := hR.call w.st w.dev (.sensorTriggerSet arm) r w.log
    w.st.batterySleeps (by simp [Off]) hmet.record
  refine ⟨hkept, ?_⟩
  by_cases hr : r = (0 : Int)
  · subst hr
    rw [if_pos rfl]
    exact ⟨hkept, rfl, fun _ => ⟨hwake, husable⟩, hrecord⟩
  · rw [if_neg hr]
    have htrig : (effect (.sensorTriggerSet arm) r w.dev).trig
        = w.dev.trig := by
      simp [effect, act, hr]
    refine ⟨⟨hkept, htrig.trans hmet.wired, hmet.usable, hrecord⟩, ?_⟩
    rintro rfl
    have hstep : (inLoop w.log || r == (0 : Int)) = true := hG.1
    have hz : (r == (0 : Int)) = false := beq_eq_false_iff_ne.mpr hr
    rw [hz, Bool.or_false] at hstep
    exact hstep

/-- Nothing `R` holds of is in the frequent loop. -/
abbrev OutOfLoop (R : Trace → Nat → Prop) : Prop :=
  ∀ l n, R l n → inLoop l = false

/-- `motion_set_armed` leaves the interrupt as the driver believes, and
outside the loop off where it is asked to. -/
theorem motionSetArmed_met (hR : Lasts whileMark R) (arm : Bool) :
    Triple (device cfg) (PowerSeen cfg) (ArmedWell cfg) (Met cfg R)
      (motionSetArmed cfg arm) fun _ w => Met cfg R w ∧
        (OutOfLoop R → arm = false → w.st.armed = false) := by
  have F : Frame (device cfg) (PowerSeen cfg) (ArmedWell cfg) (Met cfg R)
      _ _ := met_frame hR
  have Fdone := keeps_static F
    (q := fun s => OutOfLoop R → arm = false → s.armed = false)
    fun s s' hs h ho ha => (hs .armed (by simp)).trans (h ho ha)
  refine triple_scope (enter_keeps F (by simp)) (R := fun _ w => Met cfg R w ∧
    (OutOfLoop R → arm = false → w.st.armed = false)) ?_
    fun _ => leave_keeps Fdone (f := .motionSetArmed arm) (by simp)
  refine Triple.get fun s => Triple.ite (fun hskip => ?_) fun hset => ?_
  · refine Triple.ret fun w h => ⟨h.1, fun _ ha => ?_⟩
    obtain ⟨hmet, rfl⟩ := h
    cases harmed : w.st.armed with
    | false => rfl
    | true =>
        obtain ⟨hwake, husable⟩ := hmet.usable harmed
        rw [hwake, husable, ha, harmed] at hskip
        cases hskip
  · simp only [Bool.or_eq_true, not_or, Bool.not_eq_true,
      Bool.not_eq_false'] at hset
    obtain ⟨⟨hwake, husable⟩, -⟩ := hset
    have hready : ∀ w : Tracker, Met cfg R w ∧ w.st = s →
        Met cfg R w ∧ cfg.motionWake = true ∧ w.st.usable = true :=
      fun w h => ⟨h.1, hwake, h.2 ▸ husable⟩
    refine ((sensorTriggerSet_met hR arm).pre hready).bind fun r =>
      Triple.ite (fun hr => ?_) fun hr => ?_
    · refine Triple.ret fun w h => ?_
      rw [if_neg hr] at h
      refine ⟨h.1, fun ho ha => ?_⟩
      have hin := h.2 ha
      rw [ho _ _ h.1.record] at hin
      cases hin
    · refine Triple.modify fun w h => ?_
      rw [if_pos (Decidable.not_not.mp hr)] at h
      exact ⟨h.kept, h, fun _ ha => ha⟩

-- ================================================================ the loop

/-- The supply under the frequent loop's body: where it is there, the
count is about to restart. -/
theorem holdOffMotion_met :
    Triple (device cfg) (PowerSeen cfg) (ArmedWell cfg) (Met cfg Counting)
      (holdOffMotion cfg) fun _ => Met cfg Counting := by
  let Seen : Bool → Trace → Nat → Prop := fun b l n =>
    b = false → Counting l n
  have hlook : Triple (device cfg) (PowerSeen cfg) (ArmedWell cfg)
      (Met cfg Counting) (powerVbusPresent .body)
      fun b => Met cfg (Seen b) := by
    have F : Frame (device cfg) (PowerSeen cfg) (ArmedWell cfg)
        (Met cfg Counting) _ _ := met_frame counting_lasts
    refine triple_scope (Y := Met cfg Counting)
      (turn counting_lasts (by simp [Off]) fun s d r l _ h => ?_)
      (part F (g := [.plain]) (v := []) (by simp [readVbusPresent]) (by simp)
        (by simp)) fun b =>
      turn counting_lasts (by simp [Off]) fun s d r l _ h hb => ?_
    · exact Ordinary.counting ⟨fun _ => rfl, rfl, rfl⟩ h
    · rw [hb]
      exact Ordinary.counting ⟨fun _ => rfl, rfl, rfl⟩ h
  refine hlook.bind fun b => Triple.ite (fun hb => ?_) fun hb =>
    Triple.ret fun w h => met_mono (fun l n h => h (by simpa using hb)) h
  refine Triple.bind (R := fun _ => Met cfg fun _ _ => True)
    (((motionSetArmed_met ⟨fun _ _ _ _ _ _ => trivial,
      fun _ _ _ _ _ _ _ _ => trivial⟩ false).post fun _ w h => h.1).pre
      fun w h => met_mono (fun _ _ _ => trivial) h) fun _ => ?_
  exact recount (f := fun _ => 0) fun l n _ =>
    ⟨fun _ k _ => Nat.zero_le k, fun _ => rfl⟩

/-- The frequent loop is left only through its condition. -/
theorem keepReporting_met (site : VbusSite) (hsite : site ≠ .body)
    (motionCycle : Bool) :
    Triple (device cfg) (PowerSeen cfg) (ArmedWell cfg) (Met cfg Counting)
      (keepReporting cfg site motionCycle) fun b w =>
        if b then Met cfg Counting w else Met cfg Parked w := by
  have F : Frame (device cfg) (PowerSeen cfg) (ArmedWell cfg)
      (Met cfg Counting) _ _ := met_frame counting_lasts
  have hsurge : Triple (device cfg) (PowerSeen cfg) (ArmedWell cfg)
      (Met cfg Counting) (surgeActive cfg motionCycle) fun b w =>
        if b then Met cfg Counting w else Met cfg Parked w := by
    refine triple_scope (enter_keeps F (f := .surgeActive motionCycle)
      (by simp)) (part F (foot_scope.mp (surgeActive_foot cfg motionCycle)).2
      (by simp) (by simp)) fun b => ?_
    have hout : Triple (device cfg) (PowerSeen cfg) (ArmedWell cfg)
        (Met cfg Counting)
        (call (.leave (.surgeActive motionCycle) (Code.code b)))
        fun _ => Met cfg fun l n =>
          Counting l n ∧ (b = false → inLoop l = false) := by
      refine turn counting_lasts (by simp [Off]) fun s d r l _ h => ?_
      refine ⟨Ordinary.counting ⟨fun _ => rfl, rfl, rfl⟩ h, ?_⟩
      -- the loop word is that the surge is over
      rintro rfl
      rfl
    refine hout.post fun _ w h => ?_
    cases b with
    | true => exact met_mono (fun l n h => h.1) h
    | false => exact met_mono (fun l n h => ⟨h.1, h.2 rfl⟩) h
  have hlook : Triple (device cfg) (PowerSeen cfg) (ArmedWell cfg)
      (Met cfg Counting) (powerVbusPresent site)
      fun _ => Met cfg Counting := by
    refine part F (powerVbusPresent_foot site) ?_ (by simp)
    cases site <;> first | exact absurd rfl hsite | simp
  refine hlook.bind fun b => Triple.ite (fun _ => Triple.ret fun w h => ?_)
    fun _ => hsurge
  rw [if_pos rfl]
  exact h

-- =============================================================== the cycle

/-- Where power did not wake it, the top of a cycle changes nothing. -/
private theorem counting_cycle {wr : WakeReason} (hwr : wr ≠ .vbus)
    (s : Statics) (d : Dev) (u : Unit) {l : Trace} {n : Nat}
    (h : Parked l n) : Counting (.call s d (.enter (.cycle wr)) u :: l) n := by
  have hword : freshWord (.call s d (.enter (.cycle wr)) u : Ev) = none :=
    if_neg hwr
  have hinst : powerInstant (.call s d (.enter (.cycle wr)) u : Ev) l
      = false := beq_eq_false_iff_ne.mpr hwr
  refine ⟨fun hu k hk => h.1.1 ?_ k ?_, fun hs => h.1.2 ?_⟩
  · simpa [unseen, hword, hinst] using hu
  · simpa [sleepsSince, hinst, bedWord] using hk
  · simpa only [fresh, List.findSome?_cons, hword] using hs

/-- A cycle that power woke restarts the count. -/
theorem topOfCycle_met (wr : WakeReason) :
    Triple (device cfg) (PowerSeen cfg) (ArmedWell cfg) (Met cfg Parked)
      (topOfCycle wr) fun _ => Met cfg (Woken True) := by
  have henter : Triple (device cfg) (PowerSeen cfg) (ArmedWell cfg)
      (Met cfg Parked) (call (.enter (.cycle wr)))
      fun _ => Met cfg (Woken (wr ≠ .vbus)) :=
    turn parked_lasts (by simp [Off]) fun s d r l _ h =>
      ⟨fun hwr => counting_cycle hwr s d r h, inLoop_word (.inl rfl) h.2⟩
  have F : ∀ c, Frame (device cfg) (PowerSeen cfg) (ArmedWell cfg)
      (Met cfg (Woken c)) _ _ := fun c => met_frame (woken_lasts c)
  have hrest : ∀ now : Int, Triple (device cfg) (PowerSeen cfg)
      (ArmedWell cfg) (Met cfg (Woken True)) (do
        watchdogPhase .wake
        watchdogFeed
        pure (u32 now)) fun _ => Met cfg (Woken True) := fun now =>
    (part (F True) (watchdogPhase_foot _) (by simp) (by simp)).bind fun _ =>
      (part (F True) watchdogFeed_foot (by simp) (by simp)).bind fun _ =>
        Triple.ret fun w h => h
  refine henter.bind fun _ => (plain_keeps (F _) (by rfl) (by simp)).bind
    fun now => Triple.ite (fun _ => ?_) fun hwr => ?_
  · refine Triple.bind (R := fun _ => Met cfg (Woken True))
      (recount (f := fun _ => 0) fun l n h => ⟨fun _ => ?_, h.2⟩)
      fun _ => hrest now
    exact ⟨fun _ k _ => Nat.zero_le k, fun _ => rfl⟩
  · exact (hrest now).pre fun w h =>
      met_mono (fun l n h => ⟨fun _ => h.1 hwr, h.2⟩) h

-- =============================================================== the sleep

/-- Entering a battery sleep: what the proviso grants. -/
private theorem bedded_enter {site : SleepSite} {s : Statics} {d : Dev}
    {u : Unit} {l : Trace}
    (hG : PowerSeen cfg (.call s d (.enter (.batterySleep site)) u) l)
    (h : Parked l s.batterySleeps) :
    Bedded cfg (.call s d (.enter (.batterySleep site)) u :: l)
      s.batterySleeps := by
  obtain ⟨⟨hbound, -⟩, hpark⟩ := h
  generalize he : (.call s d (.enter (.batterySleep site)) u : Ev) = e at *
  have hword : freshWord e = some false := by rw [← he]; rfl
  have hinst : powerInstant e l = d.vbus := by rw [← he]; rfl
  have hbed : bedWord e = some d.vbus := by rw [← he]; rfl
  have hfresh : fresh (e :: l) = false := by
    simp only [fresh, List.findSome?_cons, hword, Option.getD_some]
  have hunseen : unseen (e :: l) = (d.vbus || unseen l) := by
    rw [unseen, hword, hinst, hfresh]
    simp
  have hsince : d.vbus = false →
      sleepsSince (e :: l) = (sleepsSince l).map (· + 1) := by
    intro hv
    rw [sleepsSince, hinst, hbed, hv]
    rfl
  refine ⟨fun hu k hk => ?_, hfresh, inLoop_word (.inl (he ▸ rfl)) hpark,
    fun hfull => ?_⟩
  -- the bound goes up by this sleep, if it is entered without power
  · obtain ⟨hv, hseen⟩ := Bool.or_eq_false_iff.mp (hunseen.symm.trans hu)
    obtain ⟨k', hk', rfl⟩ := Option.map_eq_some_iff.mp
      ((hsince hv).symm.trans hk)
    exact Nat.succ_le_succ (hbound hseen k' hk')
  -- where the count has run out the proviso gives the rest
  · have hgrant : (!d.vbus && (cfg.motionSettleCycles == 0 || !unseen l))
        = true := by
      subst he
      have hn : ¬s.batterySleeps < cfg.motionSettleCycles :=
        Nat.not_lt.mpr hfull
      simpa [PowerSeen, powerSeen, hn] using hG
    simp only [Bool.and_eq_true, Bool.not_eq_true', Bool.or_eq_true,
      beq_iff_eq] at hgrant
    obtain ⟨hv, hseen⟩ := hgrant
    refine ⟨?_, ?_⟩
    · simp only [powerAtSleep, List.findSome?_cons, hbed, Option.getD_some, hv]
    · unfold late
      rw [hsince hv]
      cases hk : sleepsSince l with
      | none => rfl
      | some k =>
          refine decide_eq_true (?_ : cfg.motionSettleCycles < k + 1)
          -- no grace at all, or as many sleeps as the count says
          rcases hseen with hzero | hseen
          · rw [hzero]
            exact Nat.succ_pos k
          · exact Nat.lt_succ_of_le
              (Nat.le_trans hfull (hbound hseen k hk))

/-- Counting the sleep, if it is one of the grace period. -/
private theorem going_of_bedded {l : Trace} {n : Nat}
    (h : Bedded cfg l n) :
    if cfg.motionSettleCycles ≤ n then Going cfg true l n
    else Going cfg false l (n + 1) := by
  obtain ⟨hbound, hfresh, hpark, hfit⟩ := h
  have hstale : ∀ m, fresh l = true → m = 0 := by
    intro m hf
    rw [hfresh] at hf
    cases hf
  split
  next hfull =>
    refine ⟨⟨⟨fun hu k hk => ?_, hstale n⟩, hpark⟩, fun _ => hfit hfull⟩
    exact Nat.le_of_succ_le (hbound hu k hk)
  next => exact ⟨⟨⟨hbound, hstale _⟩, hpark⟩, nofun⟩

/-- A return keeps the count outside the loop. -/
private theorem leave_parked {f : Fn} {r : Int}
    (hf : f ≠ .powerVbusPresent .body) :
    Triple (device cfg) (PowerSeen cfg) (ArmedWell cfg) (Met cfg Parked)
      (call (.leave f r)) fun _ => Met cfg Parked := by
  refine Triple.op (met_frame parked_lasts).stable fun w u h _ _ => ?_
  have hkept : ArmedWell cfg (w.called (device cfg) (.leave f r) u) :=
    ⟨rfl, h.kept⟩
  exact ⟨hkept, hkept, h.wired, h.usable,
    (Ordinary.leave hf _ _ r u).counting h.record.1,
    inLoop_leave f _ _ r u h.record.2⟩

/-- The wait starts armed only where it may. -/
private theorem wakeWait_met (arm : Bool) (seconds : Nat) :
    Triple (device cfg) (PowerSeen cfg) (ArmedWell cfg)
      (fun w => Met cfg (Going cfg arm) w
        ∧ (arm = false → w.st.armed = false))
      (wakeWait seconds) fun _ => Met cfg Parked := by
  have F : Frame (device cfg) (PowerSeen cfg) (ArmedWell cfg)
      (Met cfg Parked) _ _ := met_frame parked_lasts
  have henter : Triple (device cfg) (PowerSeen cfg) (ArmedWell cfg)
      (fun w => Met cfg (Going cfg arm) w
        ∧ (arm = false → w.st.armed = false))
      (call (.enter .wakeWait)) fun _ => Met cfg Parked := by
    refine Triple.op ((met_frame (going_lasts arm)).stable.and
      (Stable.static fun s : Statics => arm = false → s.armed = false))
      fun w u h _ _ => ?_
    obtain ⟨⟨hkept, hwired, husable, hpark, hfit⟩, hoff⟩ := h
    have hfirst : ArmedOnBattery cfg
        (.call w.st w.dev (.enter .wakeWait) u : Ev) w.log := by
      show (!w.dev.trig || (!powerAtSleep w.log && late cfg w.log)) = true
      cases arm with
      | false => rw [hwired, hoff rfl, Bool.not_false, Bool.true_or]
      | true => rw [(hfit rfl).1, (hfit rfl).2, Bool.not_false, Bool.and_self,
          Bool.or_true]
    exact ⟨⟨hfirst, hkept⟩, ⟨hfirst, hkept⟩, hwired, husable,
      Ordinary.counting ⟨fun _ => rfl, rfl, rfl⟩ hpark.1,
      inLoop_word (.inl rfl) hpark.2⟩
  exact triple_scope henter (part F (g := [.wake]) (v := [])
    (by simp) (by simp) (by simp)) fun r => leave_parked nofun

/-- `battery_sleep`, on each of its two branches: where the count has run out
it may arm, since the proviso has it entered without power and with all power
seen; elsewhere it disarms, counts one more, and starts the wait disarmed. -/
theorem batterySleep_met (site : SleepSite) :
    Triple (device cfg) (PowerSeen cfg) (ArmedWell cfg) (Met cfg Parked)
      (batterySleep cfg site) fun _ => Met cfg Parked := by
  have henter : Triple (device cfg) (PowerSeen cfg) (ArmedWell cfg)
      (Met cfg Parked) (call (.enter (.batterySleep site)))
      fun _ => Met cfg (Bedded cfg) :=
    turn parked_lasts (by simp [Off]) fun s d r l hG h => bedded_enter hG h
  refine triple_scope henter (R := fun _ => Met cfg Parked) ?_
    fun r => leave_parked (by simp)
  refine Triple.get fun s => ?_
  generalize harm : decide (cfg.motionSettleCycles ≤ s.batterySleeps) = arm
  have hlast := bedded_lasts cfg s.batterySleeps
  have F : Frame (device cfg) (PowerSeen cfg) (ArmedWell cfg)
      (Met cfg fun l n => Bedded cfg l n ∧ n = s.batterySleeps) _ _ :=
    met_frame hlast
  -- what the accelerometer was set to lasts up to the wait
  have hwait : Triple (device cfg) (PowerSeen cfg) (ArmedWell cfg)
      (fun w => Met cfg (Going cfg arm) w
        ∧ (arm = false → w.st.armed = false)) (do
        watchdogPhase .sleep
        wakeWait cfg.sleepSeconds) fun _ => Met cfg Parked :=
    (part (keeps_static (q := fun s => arm = false → s.armed = false)
      (met_frame (going_lasts arm)) fun s s' hs h ha =>
        (hs .armed (by simp)).trans (h ha)) (watchdogPhase_foot _) (by simp)
      (by simp)).bind fun _ => wakeWait_met arm _
  refine Triple.pre (P := Met cfg fun l n =>
    Bedded cfg l n ∧ n = s.batterySleeps) ?_ fun w h =>
      ⟨h.1.kept, h.1.wired, h.1.usable, h.1.record, by rw [h.2]⟩
  refine (part F (watchdogPhase_foot _) (by simp) (by simp)).bind fun _ =>
    (part F (statusLedSleep_foot cfg) (by simp) (by simp)).bind fun _ =>
    (part F (watchdogPhase_foot _) (by simp) (by simp)).bind fun _ =>
    (motionSetArmed_met hlast arm).bind fun _ => Triple.ite
      (fun ha => ?_) fun ha => ?_
  -- the grace lasts: disarmed, and one more
  · have hout : OutOfLoop fun l n =>
        Bedded cfg l n ∧ n = s.batterySleeps := fun l n h => h.1.2.2.1
    have harm' : arm = false := by simpa using ha
    have hgo : ¬cfg.motionSettleCycles ≤ s.batterySleeps := by
      rw [← harm] at harm'
      exact of_decide_eq_false harm'
    refine Triple.bind (R := fun _ w => Met cfg (Going cfg arm) w
      ∧ (arm = false → w.st.armed = false)) (Triple.modify fun w h => ?_)
      fun _ => hwait
    obtain ⟨⟨hkept, hwired, husable, hbed, hn⟩, hoff⟩ := h
    have hgoing := going_of_bedded hbed
    rw [hn, if_neg hgo] at hgoing
    refine ⟨hkept, ⟨hkept, hwired, husable, ?_⟩, fun ha => hoff hout ha⟩
    show Going cfg arm w.log (w.st.batterySleeps + 1)
    rw [harm', hn]
    exact hgoing
  -- it has run out: armed, and the count stays
  · have harm' : arm = true := by simpa using ha
    have hgo : cfg.motionSettleCycles ≤ s.batterySleeps := by
      rw [← harm] at harm'
      exact of_decide_eq_true harm'
    refine hwait.pre fun w h => ?_
    refine ⟨met_mono (fun l n h => ?_) h.1, fun ha => by simp [ha] at harm'⟩
    have hgoing := going_of_bedded h.1
    rw [h.2, if_pos hgo] at hgoing
    rw [harm', h.2]
    exact hgoing

-- ================================================================ the law

/-- Which assertion holds at which point of `main`. -/
def armingAt (cfg : Config) : Point → Tracker → Prop
  | .boot => fun w => Met cfg Parked w ∧ w.st.armed = false
  | .top _ => Met cfg Parked
  | .woken => Met cfg (Woken True)
  | .awake => Met cfg (Woken True)
  | .on => Met cfg (Woken True)
  | .run => Met cfg Counting
  | .told => Met cfg Counting
  | .pass => Met cfg Counting
  | .done => Met cfg Parked
  | .off _ => Met cfg Parked
  | .bed _ => Met cfg Parked

/-- With nothing left to restart the top of a cycle is parked. -/
private theorem parked_of_woken {w : Tracker} (h : Met cfg (Woken True) w) :
    Met cfg Parked w :=
  met_mono (fun _ _ h => ⟨h.1 trivial, h.2⟩) h

/-- Setting up leaves the accelerometer disarmed. -/
theorem setUp_met :
    Triple (device cfg) (PowerSeen cfg) (ArmedWell cfg)
      (armingAt cfg .boot) (setUp cfg) fun _ => Met cfg Parked := by
  have F : Frame (device cfg) (PowerSeen cfg) (ArmedWell cfg)
      (fun w => Met cfg Parked w ∧ w.st.armed = false)
      (Off (.trigger :: (whileMark ++ armingMarks)))
      (Keep [.armed, .batterySleeps]) :=
    { stable := (met_frame parked_lasts).stable.and
        (Stable.static fun s : Statics => s.armed = false)
      calls := fun w o r ho h hok hG =>
        ⟨(met_frame parked_lasts).calls w o r ho h.1 hok hG, h.2⟩
      writes := by
        intro w f hf h
        have harmed : (f w.st).armed = false :=
          (hf .armed (by simp) : (f w.st).armed = w.st.armed).trans h.2
        have hcount : (f w.st).batterySleeps = w.st.batterySleeps :=
          hf .batterySleeps (by simp)
        refine ⟨⟨h.1.kept, ?_, fun ha => ?_, ?_⟩, harmed⟩
        · exact h.1.wired.trans (h.2.trans harmed.symm)
        · have ha' : (f w.st).armed = true := ha
          rw [harmed] at ha'
          cases ha'
        · show Parked w.log (f w.st).batterySleeps
          rw [hcount]
          exact h.1.record
      gives := fun w h => h.1.kept }
  exact (part F setUp_foot (by simp) (by simp)).post fun _ _ h => h.1

/-- The walk along main with what holds at each of its places. -/
theorem arming_outline : Outline cfg (PowerSeen cfg) (ArmedWell cfg)
    (armingAt cfg) := by
  have FP : Frame (device cfg) (PowerSeen cfg) (ArmedWell cfg)
      (Met cfg Parked) _ _ := met_frame parked_lasts
  have FW : Frame (device cfg) (PowerSeen cfg) (ArmedWell cfg)
      (Met cfg (Woken True)) _ _ := met_frame (woken_lasts True)
  have FC : Frame (device cfg) (PowerSeen cfg) (ArmedWell cfg)
      (Met cfg Counting) _ _ := met_frame counting_lasts
  exact
    { quiet := by
        intro pt
        -- parked outside the loop, counting in it, and woken up to the
        -- receiver
        cases pt with
        | boot =>
            exact quiet (keeps_static (q := fun s => s.armed = false) FP
              fun s s' hs h => (hs .armed (by simp)).trans h) (by simp)
              (by simp)
        | top _ => exact quiet FP (by simp) (by simp)
        | done => exact quiet FP (by simp) (by simp)
        | off _ => exact quiet FP (by simp) (by simp)
        | bed _ => exact quiet FP (by simp) (by simp)
        | run => exact quiet FC (by simp) (by simp)
        | told => exact quiet FC (by simp) (by simp)
        | pass => exact quiet FC (by simp) (by simp)
        | woken => exact quiet FW (by simp) (by simp)
        | awake => exact quiet FW (by simp) (by simp)
        | on => exact quiet FW (by simp) (by simp)
      setUp := setUp_met.post fun _ _ h _ => h
      topOfCycle := topOfCycle_met
      recover := part FW (recoverIfSilent_foot cfg) (by simp) (by simp)
      noLte := fun _ _ h => h
      lte := part FW (lteEnsureConnected_foot cfg) (by simp) (by simp)
      offline := fun _ h => parked_of_woken h
      resume := part FW (cloudResume_foot cfg) (by simp) (by simp)
      ledOn := part FW (statusLedReport_foot cfg false) (by simp) (by simp)
      start := (part FW (gnssStart_foot cfg) (by simp) (by simp)).post
        fun r w h => by
          split
          · exact met_mono (fun _ _ h => h.1 trivial) h
          · exact parked_of_woken h
      fetch := (part FC (agnssFetchAndInject_foot cfg) (by simp)
        (by simp)).pre fun _ h => h.1
      wait := fun t => part FC (gnssWaitFix_foot cfg t) (by simp) (by simp)
      fallback := part FC (gnssFallback_foot cfg) (by simp) (by simp)
      report := fun fix _ _ => part FC (reportFix_foot cfg fix _ _)
        (by simp) (by simp)
      unreported := fun _ h => h
      ledTold := fun b => part FC (statusLedReport_foot cfg b) (by simp)
        (by simp)
      keepIf := keepReporting_met .ifCond nofun
      logLine := part FC (powerVbusPresent_foot _) (by simp) (by simp)
      keepWhile := keepReporting_met .whileCond nofun
      holdOff := holdOffMotion_met
      stop := part FP (gnssStop_foot cfg) (by simp) (by simp)
      pause := fun _ => part FP (cloudPause_foot cfg) (by simp) (by simp)
      sleep := fun site => batterySleep_met site }

/-- In every run whose battery sleeps find the count run out only without
power, and after all power before was seen, every sleep that starts armed
was entered without power and after the grace period. -/
theorem armed_on_battery {n fuel : Nat} {w : Tracker}
    (hw : Booted cfg w) {c : P Int × Tracker}
    (hr : Reach (device cfg) (main cfg n fuel) w c)
    (hG : Always (PowerSeen cfg) c.2.log) :
    Always (ArmedOnBattery cfg) c.2.log := by
  obtain ⟨magic, phase, hst⟩ := hw.st
  refine arming_outline.reach (J := ArmedWell cfg) ?_ hr hG
  have hoff : w.st.armed = false := by rw [hst]; rfl
  refine ⟨⟨?_, ?_, fun ha => ?_, ?_⟩, hoff⟩
  · rw [ArmedWell, hw.log]
    trivial
  · rw [hw.trig, hoff]
  · rw [hoff] at ha
    cases ha
  · rw [hw.log]
    exact ⟨⟨fun _ _ => nofun, nofun⟩, rfl⟩

/-- Power in the first cycle and not after: the first sleep is one of the
grace period, the second starts armed. -/
theorem armed_on_battery_driven :
    (playMain fixless (driven false) 2 9 900).2.log.any
      (fun e => match e with
        | .call _ d (.enter .wakeWait) _ => d.trig
        | _ => false) = true ∧
    Always (ArmedOnBattery fixless)
      (playMain fixless (driven false) 2 9 900).2.log :=
  ⟨by decide +kernel, armed_on_battery (start_booted fixless)
    (playMain_reach fixless (driven false) 2 9 900) (by decide +kernel)⟩

/-- Power and no network: the cycle is cut short before anyone looks at
the supply, and its sleep starts armed. -/
theorem armed_under_power :
    ∃ w c, Booted fixless w ∧ Reach (device fixless) (main fixless 1 0) w c ∧
      ¬Always (ArmedOnBattery fixless) c.2.log :=
  ⟨start fixless, _, start_booted fixless,
    playMain_reach fixless (driven true) 1 0 300, by decide +kernel⟩

end GpsTracker
