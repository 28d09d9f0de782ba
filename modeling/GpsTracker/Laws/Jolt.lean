/-
No armed jolt is lost at the end of a cycle (main.c, motion.c, wake.c).

A jolt is acted on by the frequent loop of a cycle that motion woke, and
by nothing else: `motion_cycle` is fixed at the top of the cycle, and the
drain of `wake_wait` discards whatever was signalled while the cycle ran.
So it matters where a jolt is handled. One in the wait of a sleep wakes a
cycle of its own, and the loop of that cycle looks for it; so does the loop
of any cycle motion woke, for a jolt handled before its last look. One in
the awake part of another cycle, after the last look, or in a sleep whose
cycle is cut short, nobody looks for although the accelerometer is armed.
The law says that the drain finds a jolt unserved exactly when such a one
is still young.

# The two words

`motion_handler` stores its stamp high word first and the loop reads it
low word first, and either may preempt the other. `Tracked` bounds the
stamp of the last armed jolt by what the two words read as, in every step
of the handler; a look that starts with the low word then reads no less.

# The wake-up

From the drain to the end of the wait (`Dozing`) a handler that has stored
its stamp has its reason and its give still to come, and both have come
once it is through. So the wait ends early, its reason is a jolt or VBUS,
and the cycle that begins is motion's or VBUS was observed.
-/
import GpsTracker.Run.Script

namespace GpsTracker

open Proc

variable {cfg : Config}

-- =============================================================== the record

/-- The stamp that a step of the work queue completes: `motion_handler`
stores the low word. -/
def stamped : Ev → Option Nat
  | .env _ d .workStep =>
      match d.busy with
      | .storeLo t :: _ => some (d.lastEventHi * 4294967296 + t)
      | _ => none
  | _ => none

/-- The stamp of a jolt that is handled while the accelerometer is
armed. -/
def armedStamp (e : Ev) : Option Nat :=
  if e.dev.trig then stamped e else none

/-- What an event says about jolts: an armed one is handled, or VBUS is
observed. -/
def joltWord (e : Ev) : Option (Option Nat) :=
  match e with
  | .call _ _ (.leave (.powerVbusPresent _) r) _ =>
      if r = 0 then none else some none
  | .call _ _ (.enter (.cycle wakeReason)) _ =>
      if wakeReason = .vbus then some none else none
  | e => (armedStamp e).map some

/-- The stamp of the last armed jolt, unless VBUS was observed since. -/
def unserved (l : Trace) : Option Nat := (l.findSome? joltWord).getD none

/-- That jolt, if any, is out of the surge window. -/
def settled (cfg : Config) (now : Nat) (l : Trace) : Bool :=
  match unserved l with
  | none => true
  | some t => decide (t + cfg.motionSurgeSeconds * 1000 ≤ now)

/-- What an event says about the loop's last look: one is under way, or an
armed jolt is handled after it. The condition of the frequent loop looks at
VBUS first, and then for a jolt. -/
def lookWord (e : Ev) : Option Bool :=
  match e with
  | .call _ _ (.leave (.powerVbusPresent .ifCond) _) _ => some false
  | .call _ _ (.leave (.powerVbusPresent .whileCond) _) _ => some false
  | .call _ _ (.enter (.surgeActive _)) _ => some false
  | .call _ _ .lastEventLoGet _ => some false
  | e => (armedStamp e).map fun _ => true

/-- An armed jolt was handled after the last look. -/
def joltSince (l : Trace) : Bool := (l.findSome? lookWord).getD false

/-- Which cycle an event begins. -/
def cycleWord : Ev → Option WakeReason
  | .call _ _ (.enter (.cycle wakeReason)) _ => some wakeReason
  | _ => none

/-- Motion woke the cycle. -/
def motionCycle (l : Trace) : Bool := l.findSome? cycleWord == some .motion

/-- The drain opens the wait of a sleep, and the take ends it. -/
def waitWord : Ev → Option Bool
  | .call _ _ (.semReset .wake) _ => some true
  | .call _ _ (.semTake .wake _) _ => some false
  | _ => none

/-- The thread is in the wait of a sleep. -/
def waits (l : Trace) : Bool := (l.findSome? waitWord).getD false

/-- Where the last armed jolt was handled: outside of any wait, or before
the last one; in the last wait; or in it with its handler through before it
ended. -/
inductive Spot | astray | asleep | caught
deriving DecidableEq, Repr

/-- The spot after one more event. -/
def Spot.next (p : Spot) (e : Ev) (l : Trace) : Spot :=
  if drainsWake e then .astray
  else if (armedStamp e).isSome then
    if waits l then .asleep else .astray
  else if p = .asleep ∧ waits l = true ∧ returning e l = some .motion then
    .caught
  else p

/-- The spot of the last armed jolt in a log. -/
def spot : Trace → Spot
  | [] => .astray
  | e :: l => (spot l).next e l

/-- The last armed jolt is one that the code looks for: a cycle that motion
woke has looked since, or the jolt was caught by the sleep before this
cycle. The stamp zero is read as no jolt. -/
def attended (l : Trace) : Bool :=
  unserved l != some 0
    && (motionCycle l && !joltSince l || spot l == .caught)

/-- The stamp of a jolt that nobody looks for. -/
def strayJolt (l : Trace) : Option Nat :=
  if attended l then none else unserved l

/-- The drain of the sleep at the end of a cycle drops no jolt still
unserved. -/
def joltServed (cfg : Config) : Ev → Trace → Bool
  | .call _ d (.semReset .wake) _, l => !inLastSleep l || settled cfg d.now l
  | _, _ => true

abbrev JoltServed (cfg : Config) (e : Ev) (l : Trace) : Prop :=
  joltServed cfg e l

/-- A jolt that nobody looks for is handled no later than a surge window
before such a drain. -/
def joltsInTime (cfg : Config) : Ev → Trace → Bool
  | .call _ d (.semReset .wake) _, l =>
      !inLastSleep l || (strayJolt l).all fun t =>
        decide (t + cfg.motionSurgeSeconds * 1000 ≤ d.now)
  | _, _ => true

/-- `joltsInTime` as a condition on the steps of a run. -/
abbrev JoltsInTime (cfg : Config) (e : Ev) (l : Trace) : Prop :=
  joltsInTime cfg e l

/-- The promise at every step. -/
abbrev ServedIffInTime (cfg : Config) (w : Tracker) : Prop :=
  Always (fun e l => JoltServed cfg e l ↔ JoltsInTime cfg e l) w.log

-- ============================================================ the two words

/-- What the two words read as. -/
def Dev.lastEvent (d : Dev) : Nat := d.lastEventHi * 4294967296 + d.lastEventLo

/-- A step of a handler that stores no stamp. -/
def Micro.plain : Micro → Bool
  | .storeHi _ => false
  | .storeLo _ => false
  | _ => true

/-- The stamp `m` is covered: however far `motion_handler` is with the
stamp `t` it read, the words read as no less than `m`, and `t` is no
earlier. -/
inductive Covered (m : Nat) (d : Dev) : Prop
  | idle (hbusy : d.busy.all Micro.plain) (hread : m ≤ d.lastEvent)
      (hnow : d.lastEvent ≤ d.now)
  | high (t : Nat) (hbusy : d.busy = motionHandler t)
      (hread : m ≤ d.lastEvent) (hlast : d.lastEvent ≤ t) (hnow : t ≤ d.now)
  | low (t : Nat) (hbusy : d.busy = (motionHandler t).tail)
      (hhi : d.lastEventHi = t / 4294967296) (hread : m ≤ d.lastEvent)
      (hdue : m ≤ t) (hnow : t ≤ d.now)

namespace Covered

variable {m m' : Nat} {d d' : Dev}

/-- The words read as no less than what is covered. -/
theorem read (h : Covered m d) : m ≤ d.lastEvent := by
  cases h <;> assumption

/-- What is covered covers anything earlier. -/
theorem mono (h : Covered m d) (hm : m' ≤ m) : Covered m' d := by
  cases h with
  | idle hbusy hread hnow => exact .idle hbusy (Nat.le_trans hm hread) hnow
  | high t hbusy hread hlast hnow =>
      exact .high t hbusy (Nat.le_trans hm hread) hlast hnow
  | low t hbusy hhi hread hdue hnow =>
      exact .low t hbusy hhi (Nat.le_trans hm hread) (Nat.le_trans hm hdue)
        hnow

/-- Only the handler and the clock matter. -/
theorem congr (h : Covered m d) (hbusy' : d'.busy = d.busy)
    (hhi' : d'.lastEventHi = d.lastEventHi)
    (hlo' : d'.lastEventLo = d.lastEventLo) (hnow' : d.now ≤ d'.now) :
    Covered m d' := by
  have hlast' : d'.lastEvent = d.lastEvent := by
    simp only [Dev.lastEvent, hhi', hlo']
  cases h with
  | idle hbusy hread hnow =>
      refine .idle (hbusy'.symm ▸ hbusy) ?_ ?_
      · rwa [hlast']
      · rw [hlast']
        exact Nat.le_trans hnow hnow'
  | high t hbusy hread hlast hnow =>
      refine .high t (hbusy'.trans hbusy) ?_ ?_ (Nat.le_trans hnow hnow')
      · rwa [hlast']
      · rwa [hlast']
  | low t hbusy hhi hread hdue hnow =>
      refine .low t (hbusy'.trans hbusy) (hhi'.trans hhi) ?_ hdue
        (Nat.le_trans hnow hnow')
      rwa [hlast']

/-- So a move that runs no handler keeps the stamp covered. -/
theorem rests (h : Covered m d) (hrests : Rests d d')
    (hnow : d.now ≤ d'.now) : Covered m d' :=
  h.congr hrests.busy hrests.lastEventHi hrests.lastEventLo hnow

/-- A handler starts with the clock it reads. -/
theorem workStart (h : Covered m d) (hcan : can .workStart d = true) :
    Covered m (move cfg .workStart d) := by
  obtain ⟨hempty, -⟩ := Bool.and_eq_true_iff.mp hcan
  have hnil : d.busy = [] := List.isEmpty_iff.mp hempty
  cases h with
  | high t hbusy => rw [hnil] at hbusy; cases hbusy
  | low t hbusy => rw [hnil] at hbusy; cases hbusy
  | idle hbusy hread hnow =>
      cases hq : d.queue with
      | nil => simpa only [move, hq] using Covered.idle hbusy hread hnow
      | cons work q =>
          simp only [move, hq]
          cases work with
          | motion => exact .high d.now rfl hread hnow (Nat.le_refl _)
          | vbusDetected => exact .idle rfl hread hnow
          | vbusRemoved => exact .idle rfl hread hnow

/-- A step of a handler: what it stamps is no earlier than `m`, and from
then on covered. -/
theorem workStep (h : Covered m d) (s : Statics) :
    d.lastEventHi ≤ (move cfg .workStep d).lastEventHi ∧
    match stamped (.env s d .workStep) with
    | none => Covered m (move cfg .workStep d)
    | some t => m ≤ t ∧ Covered t (move cfg .workStep d) := by
  cases h with
  | idle hbusy hread hnow =>
      cases hb : d.busy with
      | nil =>
          simp only [move, stamped, hb]
          exact ⟨Nat.le_refl _, .idle (by rw [hb]; rfl) hread hnow⟩
      | cons step rest =>
          rw [hb, List.all_cons, Bool.and_eq_true] at hbusy
          cases step with
          | storeHi t => cases hbusy.1
          | storeLo t => cases hbusy.1
          | _ =>
              simp only [move, stamped, hb, Micro.run]
              exact ⟨Nat.le_refl _, .idle hbusy.2 hread hnow⟩
  | high t hbusy hread hlast hnow =>
      -- the high word is stored first, and never goes back
      have hhi : d.lastEventHi ≤ t / 4294967296 := by
        simp only [Dev.lastEvent] at hlast
        omega
      have hnew : m ≤ t / 4294967296 * 4294967296 + d.lastEventLo := by
        refine Nat.le_trans hread (Nat.add_le_add_right ?_ _)
        exact Nat.mul_le_mul_right _ hhi
      simp only [move, stamped, hbusy, motionHandler, List.cons_append,
        Micro.run]
      exact ⟨hhi, .low t rfl rfl hnew (Nat.le_trans hread hlast) hnow⟩
  | low t hbusy hhi hread hdue hnow =>
      -- with the low word the two make up the stamp
      have ht : d.lastEventHi * 4294967296 + t % 4294967296 = t := by
        omega
      simp only [move, stamped, hbusy, motionHandler, List.cons_append,
        List.tail_cons, Micro.run, ht]
      refine ⟨Nat.le_refl _, hdue, .idle rfl ?_ ?_⟩
      · simp only [Dev.lastEvent, ht]
        exact Nat.le_refl _
      · simpa only [Dev.lastEvent, ht] using hnow

/-- Every own move keeps the stamp covered. -/
theorem move_step (cfg : Config) (h : Covered m d) {a : Move}
    (hcan : can a d = true) (s : Statics) :
    d.lastEventHi ≤ (move cfg a d).lastEventHi ∧
    match stamped (.env s d a) with
    | none => Covered m (move cfg a d)
    | some t => m ≤ t ∧ Covered t (move cfg a d) := by
  cases a with
  | workStep => exact h.workStep s
  | workStart =>
      refine ⟨?_, h.workStart hcan⟩
      simp only [move]
      split <;> exact Nat.le_refl _
  | vbusIn | vbusOut | jolt =>
      exact ⟨Nat.le_refl _, h.congr rfl rfl rfl (Nat.le_refl _)⟩
  | _ =>
      exact ⟨Nat.le_of_eq (move_rests cfg rfl d).lastEventHi.symm,
        h.rests (move_rests cfg rfl d) (move_drifts cfg _ d).now⟩

end Covered

-- ================================================================== events

section events

variable {s : Statics} {d : Dev} {a : Move} {l : Trace}

/-- Only moves of the device stamp, -/
private theorem armedStamp_call (o : Op) (r : o.Ret) :
    armedStamp (.call s d o r : Ev) = none := by
  unfold armedStamp
  split <;> rfl

/-- A call can only end the jolt on record. -/
private theorem unserved_call (o : Op) (r : o.Ret) :
    unserved (.call s d o r :: l) = unserved l ∨
      unserved (.call s d o r :: l) = none := by
  have hword : joltWord (.call s d o r : Ev) = none
      ∨ joltWord (.call s d o r : Ev) = some none := by
    have hother : ((armedStamp (.call s d o r : Ev)).map some) = none := by
      rw [armedStamp_call]
      rfl
    cases o with
    | enter f =>
        cases f with
        | cycle wr => cases wr <;> first | exact .inl rfl | exact .inr rfl
        | _ => exact .inl hother
    | leave f r =>
        cases f with
        | powerVbusPresent site =>
            simp only [joltWord]
            split
            · exact .inl rfl
            · exact .inr rfl
        | _ => exact .inl hother
    | _ => exact .inl hother
  rcases hword with hword | hword
  · left
    simp only [unserved, List.findSome?_cons, hword]
  · right
    simp only [unserved, List.findSome?_cons, hword, Option.getD_some]

/-- The calls of a look. -/
abbrev lookGroups : List Group := .lastEventLo :: supplyGroups

/-- only what belongs to a look says that one is under way, -/
private theorem lookWord_call {o : Op} (h : Off lookGroups o) (r : o.Ret) :
    lookWord (.call s d o r : Ev) = none := by
  have hother : ((armedStamp (.call s d o r : Ev)).map fun _ => true)
      = none := by
    rw [armedStamp_call]
    rfl
  cases o with
  | enter f =>
      cases f with
      | surgeActive b => cases b <;> exact absurd h (by simp [Off])
      | _ => exact hother
  | leave f c =>
      cases f with
      | powerVbusPresent site =>
          cases site <;> first | exact hother | exact absurd h (by simp [Off])
      | _ => exact hother
  | lastEventLoGet => exact absurd h (by simp [Off])
  | _ => exact hother

/-- The return of `surge_active` is no look. -/
private theorem lookWord_leave (b : Bool) (c : Int) (r : Unit) :
    lookWord (.call s d (.leave (.surgeActive b) c) r : Ev) = none := by
  show (armedStamp (.call s d (.leave _ c) r : Ev)).map _ = none
  rw [armedStamp_call]
  rfl

/-- No call handles a jolt. -/
private theorem joltSince_call (o : Op) (r : o.Ret)
    (h : joltSince l = false) : joltSince (.call s d o r :: l) = false := by
  have hword : lookWord (.call s d o r : Ev) ≠ some true := by
    have hother : ((armedStamp (.call s d o r : Ev)).map fun _ => true)
        ≠ some true := by
      rw [armedStamp_call]
      nofun
    unfold lookWord
    split
    all_goals first | exact hother | simp
  unfold joltSince at h ⊢
  rw [List.findSome?_cons]
  cases hw : lookWord (.call s d o r : Ev) with
  | none => exact h
  | some b =>
      cases b with
      | true => exact absurd hw hword
      | false => rfl

/-- The marks of a cycle. -/
abbrev cycleGroups : List Group :=
  [.mark (.cycle .boot), .mark (.cycle .timer), .mark (.cycle .vbus),
    .mark (.cycle .motion)]

/-- only the mark of a cycle says what woke it, -/
private theorem cycleWord_call {o : Op} (h : Off cycleGroups o) (r : o.Ret) :
    cycleWord (.call s d o r : Ev) = none := by
  cases o with
  | enter f =>
      cases f with
      | cycle wr => cases wr <;> exact absurd h (by simp [Off])
      | _ => rfl
  | _ => rfl

/-- and only the wake semaphore opens or closes a wait -/
private theorem waitWord_call {o : Op} (h : Off [.wake] o) (r : o.Ret) :
    waitWord (.call s d o r : Ev) = none := by
  cases o with
  | semReset t => cases t <;> first | rfl | exact absurd h (by simp [Off])
  | semTake t ms => cases t <;> first | rfl | exact absurd h (by simp [Off])
  | _ => rfl

/-- Outside of `wake_wait` no call begins or ends a wait. -/
private theorem waits_kept {o : Op} (h : Off [.wake] o) (r : o.Ret) :
    waits (.call s d o r :: l) = waits l := by
  simp only [waits, List.findSome?_cons, waitWord_call h]

/-- And no call but the drain moves the spot. -/
private theorem spot_call {o : Op} {r : o.Ret}
    (h : drainsWake (.call s d o r : Ev) = false) :
    spot (.call s d o r :: l) = spot l := by
  simp [spot, Spot.next, h, armedStamp_call, returning]

/-- or drains. -/
private theorem drainsWake_call {o : Op} (h : Off [.wake] o) (r : o.Ret) :
    drainsWake (.call s d o r : Ev) = false := by
  cases o with
  | semReset t => cases t <;> first | rfl | exact absurd h (by simp [Off])
  | _ => rfl

/-- Off that semaphore the promise is about nothing. -/
private theorem joltServed_call {o : Op} (h : Off [.wake] o) (r : o.Ret) :
    JoltServed cfg (.call s d o r : Ev) l
      ↔ JoltsInTime cfg (.call s d o r : Ev) l := by
  cases o with
  | semReset sem =>
      cases sem <;> first | exact Iff.rfl | exact absurd h (by simp [Off])
  | _ => exact Iff.rfl

/-- A move that stamps no armed jolt leaves the record of jolts, -/
private theorem record_quiet (h : armedStamp (.env s d a : Ev) = none) :
    unserved (.env s d a :: l) = unserved l ∧
      joltSince (.env s d a :: l) = joltSince l := by
  have hjolt : joltWord (.env s d a : Ev) = none := by
    show (armedStamp _).map some = none
    rw [h]
    rfl
  have hlook : lookWord (.env s d a : Ev) = none := by
    show (armedStamp _).map (fun _ => true) = none
    rw [h]
    rfl
  constructor
  · simp only [unserved, List.findSome?_cons, hjolt]
  · simp only [joltSince, List.findSome?_cons, hlook]

/-- and one that does starts it again, with a look to come. -/
private theorem record_jolt {t : Nat}
    (h : armedStamp (.env s d a : Ev) = some t) :
    unserved (.env s d a :: l) = some t ∧
      joltSince (.env s d a :: l) = true := by
  have hjolt : joltWord (.env s d a : Ev) = some (some t) := by
    show (armedStamp _).map some = _
    rw [h]
    rfl
  have hlook : lookWord (.env s d a : Ev) = some true := by
    show (armedStamp _).map (fun _ => true) = _
    rw [h]
    rfl
  constructor
  · simp only [unserved, List.findSome?_cons, hjolt, Option.getD_some]
  · simp only [joltSince, List.findSome?_cons, hlook, Option.getD_some]

/-- A jolt handled outside of any wait is astray, and a caught one stays
so. -/
private theorem spot_awake (h : waits l = false)
    (hcaught : spot (.env s d a :: l) = .caught) :
    armedStamp (.env s d a : Ev) = none ∧ spot l = .caught := by
  have hnext : spot (.env s d a :: l)
      = if (armedStamp (.env s d a : Ev)).isSome then .astray else spot l := by
    simp [spot, Spot.next, drainsWake, h]
  rw [hnext] at hcaught
  split at hcaught
  · cases hcaught
  next hnone => exact ⟨by simpa using hnone, hcaught⟩

/-- What a move leaves covered. -/
private theorem covered_env (cfg : Config) {m : Nat} (h : Covered m d)
    (hcan : can a d = true) :
    match armedStamp (.env s d a : Ev) with
    | none => Covered m (move cfg a d)
    | some t => Covered t (move cfg a d) := by
  have hstep := (h.move_step cfg hcan s).2
  unfold armedStamp
  split at hstep
  next hnone =>
    rw [hnone, ite_self]
    exact hstep
  next t hsome =>
    rw [hsome]
    cases (.env s d a : Ev).dev.trig with
    | true => exact hstep.2
    | false => exact hstep.2.mono hstep.1

end events

-- ============================================================== assertions

/-- Holds throughout: the promise, whose steps are running, and the stamp
on record covered. -/
structure Tracked (cfg : Config) (w : Tracker) : Prop where
  kept : ServedIffInTime cfg w
  manned : Manned w.log w.dev
  covered : Covered ((unserved w.log).getD 0) w.dev

/-- `fact` is known of the stamp on record, if no jolt was handled since
the last look. -/
def Known (fact : Nat → Dev → Prop) (w : Tracker) : Prop :=
  joltSince w.log = false →
    ∀ t, unserved w.log = some t → t ≠ 0 → fact t w.dev

/-- A fact that time and later stamps only confirm. -/
def Grows (fact : Nat → Dev → Prop) : Prop :=
  ∀ t d d', d.now ≤ d'.now → d.lastEventHi ≤ d'.lastEventHi →
    fact t d → fact t d'

/-- The stamp is no later than the low word `lo` under the high word. -/
def ReadLow (lo t : Nat) (d : Dev) : Prop :=
  t ≤ d.lastEventHi * 4294967296 + lo

/-- The stamp is no later than `last`. -/
def ReadBoth (last t : Nat) (_ : Dev) : Prop := t ≤ last

/-- The stamp is out of the surge window. -/
def Aged (cfg : Config) (t : Nat) (d : Dev) : Prop :=
  t + cfg.motionSurgeSeconds * 1000 ≤ d.now

/-- The words only grow, -/
theorem readLow_grows (lo : Nat) : Grows (ReadLow lo) :=
  fun _ _ _ _ hhi h => Nat.le_trans h
    (Nat.add_le_add_right (Nat.mul_le_mul_right _ hhi) _)

/-- what was read stays read, -/
theorem readBoth_grows (last : Nat) : Grows (ReadBoth last) :=
  fun _ _ _ _ _ h => h

/-- and a jolt only gets older. -/
theorem aged_grows (cfg : Config) : Grows (Aged cfg) :=
  fun _ _ _ hnow _ h => Nat.le_trans h hnow

/-- `settled` with its two cases put as one statement. -/
theorem settled_iff {now : Nat} {l : Trace} : settled cfg now l = true ↔
    ∀ t, unserved l = some t → t + cfg.motionSurgeSeconds * 1000 ≤ now := by
  unfold settled
  cases unserved l with
  | none => simp
  | some t => simp

/-- A call that keeps the promise keeps the stamp covered. -/
theorem Tracked.call {w : Tracker} {o : Op} {r : o.Ret}
    (h : Tracked cfg w)
    (hkept : JoltServed cfg (.call w.st w.dev o r : Ev) w.log
      ↔ JoltsInTime cfg (.call w.st w.dev o r : Ev) w.log) :
    Tracked cfg (w.called (device cfg) o r) := by
  have hs := effect_spares o r w.dev
  have hcov : ∀ m, Covered m w.dev → Covered m (effect o r w.dev) :=
    fun m hm => hm.congr hs.busy hs.lastEventHi hs.lastEventLo
      (Nat.le_of_eq hs.now.symm)
  refine ⟨⟨hkept, h.kept⟩, manned_call h.manned w.st o r, ?_⟩
  show Covered ((unserved (.call w.st w.dev o r :: w.log)).getD 0) _
  rcases unserved_call (s := w.st) (d := w.dev) (l := w.log) o r with hr | hr
  · rw [hr]
    exact hcov _ h.covered
  · rw [hr]
    exact hcov _ (h.covered.mono (Nat.zero_le _))

/-- And so does any move that the device can make. -/
theorem Tracked.moved {w : Tracker} (h : Tracked cfg w) {a : Move}
    (hcan : can a w.dev = true) : Tracked cfg (w.moved (device cfg) a) := by
  have hcov := covered_env (s := w.st) cfg h.covered hcan
  refine ⟨⟨Iff.rfl, h.kept⟩, manned_move h.manned w.st a, ?_⟩
  show Covered ((unserved (.env w.st w.dev a :: w.log)).getD 0) _
  cases hs : armedStamp (.env w.st w.dev a : Ev) with
  | none =>
      rw [hs] at hcov
      rw [(record_quiet (l := w.log) hs).1]
      exact hcov
  | some t =>
      rw [hs] at hcov
      rw [(record_jolt (l := w.log) hs).1]
      exact hcov

/-- So everything but the calls on the wake semaphore keeps it. -/
theorem tracked_frame (cfg : Config) :
    Frame (device cfg) Free (ServedIffInTime cfg) (Tracked cfg) (Off [.wake])
      (Keep []) where
  stable := fun _ _ h hcan _ => h.moved hcan
  calls := fun _ _ r ho h _ _ => h.call (joltServed_call ho r)
  writes := fun _ _ _ h => ⟨h.kept, h.manned, h.covered⟩
  gives := fun _ h => h.kept

/-- A call that can only end the jolt on record keeps what is known of
it. -/
private theorem known_call (cfg : Config) {fact : Nat → Dev → Prop}
    (hF : Grows fact) {w : Tracker} {o : Op} {r : o.Ret}
    (hlook : lookWord (.call w.st w.dev o r : Ev) = none)
    (h : Known fact w) : Known fact (w.called (device cfg) o r) := by
  intro hj t ht hpos
  have hs := effect_spares o r w.dev
  have hj' : joltSince (.call w.st w.dev o r :: w.log) = false := hj
  have ht' : unserved (.call w.st w.dev o r :: w.log) = some t := ht
  simp only [joltSince, List.findSome?_cons, hlook] at hj'
  rcases unserved_call (s := w.st) (d := w.dev) (l := w.log) o r
    with hr | hr
  · rw [hr] at ht'
    exact hF t w.dev _ (Nat.le_of_eq hs.now.symm)
      (Nat.le_of_eq hs.lastEventHi.symm) (h hj' t ht' hpos)
  · rw [hr] at ht'
    cases ht'

/-- A jolt handled later takes what is known with it. -/
private theorem known_move {fact : Nat → Dev → Prop} (hF : Grows fact)
    {w : Tracker} {a : Move} (hcan : can a w.dev = true)
    (hcov : Covered ((unserved w.log).getD 0) w.dev) (h : Known fact w) :
    Known fact (w.moved (device cfg) a) := by
  intro hj t ht hpos
  have hhi := (hcov.move_step cfg hcan w.st).1
  have hnow : w.dev.now ≤ (move cfg a w.dev).now :=
    (move_drifts cfg a w.dev).now
  cases hs : armedStamp (.env w.st w.dev a : Ev) with
  | none =>
      obtain ⟨hrec, hsince⟩ := record_quiet (l := w.log) hs
      exact hF t w.dev _ hnow hhi
        (h (hsince.symm.trans hj) t (hrec.symm.trans ht) hpos)
  | some t' =>
      have hsince := (record_jolt (l := w.log) hs).2
      cases hsince.symm.trans hj

-- ================================================================= the wait

/-- Between the drain and the end of the wait: a handler that stored its
stamp has its reason and its give to come, and both have come once it is
through. -/
structure Dozing (cfg : Config) (w : Tracker) : Prop where
  tracked : Tracked cfg w
  waits : waits w.log = true
  stamped : spot w.log = .asleep → atWork w.log = some .motion ∧
    (w.dev.busy = wakeSignal .motion
      ∨ w.dev.busy = [.give] ∧ w.dev.pending = .motion)
  through : spot w.log = .caught → w.dev.semWake = true ∧
    (w.dev.pending = .vbus ∨ w.dev.pending = .motion)

/-- The spot after a step of a handler in a wait. -/
private theorem spot_step {s : Statics} {d : Dev} {l : Trace}
    (hwaits : waits l = true) :
    spot (.env s d .workStep :: l)
      = if (armedStamp (.env s d .workStep : Ev)).isSome then .asleep
        else if spot l = .asleep
            ∧ returning (.env s d .workStep) l = some .motion then .caught
        else spot l := by
  simp [spot, Spot.next, drainsWake, hwaits]

/-- What a handler's step makes of a stored stamp, and of a caught one. -/
private theorem dozing_step {w : Tracker} (h : Dozing cfg w)
    (hcan : can .workStep w.dev = true) :
    Dozing cfg (w.moved (device cfg) .workStep) := by
  have hne : w.dev.busy ≠ [] := by simpa [can] using hcan
  obtain ⟨m, ms, hb⟩ := List.exists_cons_of_ne_nil hne
  rcases h.tracked.manned with hnil | ⟨work, t, hwork, hsuf⟩
  · exact absurd hnil hne
  rw [hb] at hsuf
  have hdev : (w.moved (device cfg) .workStep).dev
      = m.run { w.dev with busy := ms } := by
    show move cfg .workStep w.dev = _
    simp only [move, hb]
  have hbusy : (w.moved (device cfg) .workStep).dev.busy = ms := by
    rw [hdev]
    cases m <;> rfl
  have hspot : spot (w.moved (device cfg) .workStep).log = _ :=
    spot_step h.waits
  cases hstamp : armedStamp (.env w.st w.dev .workStep : Ev) with
  | some t' =>
      -- the low word is stored: `wake_signal` is all that is left
      have hlow : ∃ lo, m = .storeLo lo := by
        cases m with
        | storeLo lo => exact ⟨lo, rfl⟩
        | _ => simp [armedStamp, stamped, hb] at hstamp
      obtain ⟨lo, rfl⟩ := hlow
      obtain ⟨rfl, rfl⟩ := storeLo_rest hsuf
      rw [hstamp, Option.isSome_some, if_pos rfl] at hspot
      refine ⟨h.tracked.moved hcan, h.waits, fun _ => ⟨hwork, .inl hbusy⟩,
        fun hs => ?_⟩
      cases hspot.symm.trans hs
  | none =>
      rw [hstamp, Option.isSome_none, if_neg Bool.false_ne_true] at hspot
      by_cases hasleep : spot w.log = .asleep
      · obtain ⟨hmotion, hrest⟩ := h.stamped hasleep
        have hstep : returning (.env w.st w.dev .workStep) w.log
            = if w.dev.busy.length = 1 then some .motion else none := by
          simp only [returning, hmotion]
        rcases hrest with hrest | ⟨hrest, hpend⟩
        · -- the reason is stored, the give still to come
          rw [hstep, hrest] at hspot
          rw [hb] at hrest
          obtain ⟨rfl, rfl⟩ := List.cons.inj hrest
          refine ⟨h.tracked.moved hcan, h.waits,
            fun _ => ⟨hmotion, .inr ⟨hbusy, ?_⟩⟩, fun hs => ?_⟩
          · rw [hdev]
            rfl
          · rw [hs] at hspot
            simp [hasleep, wakeSignal] at hspot
        · -- the give, and the handler is through
          rw [hstep, hrest] at hspot
          rw [hb] at hrest
          obtain ⟨rfl, rfl⟩ := List.cons.inj hrest
          refine ⟨h.tracked.moved hcan, h.waits, fun hs => ?_, fun _ => ?_⟩
          · rw [hs] at hspot
            simp [hasleep] at hspot
          · rw [hdev]
            exact ⟨rfl, .inr hpend⟩
      · rw [if_neg fun hc => hasleep hc.1] at hspot
        refine ⟨h.tracked.moved hcan, h.waits, fun hs => ?_, fun hs => ?_⟩
        · exact absurd (hspot.symm.trans hs) hasleep
        · obtain ⟨hsem, hpend⟩ := h.through (hspot.symm.trans hs)
          rw [hdev]
          cases m with
          | pend r => exact ⟨hsem, pend_reason hsuf⟩
          | give => exact ⟨rfl, hpend⟩
          | _ => exact ⟨hsem, hpend⟩

/-- No other move stamps, and none but a handler's step ends a handler. -/
private theorem spot_quiet {s : Statics} {d : Dev} {a : Move} {l : Trace}
    (ha : a ≠ .workStep) : armedStamp (.env s d a : Ev) = none
      ∧ spot (.env s d a :: l) = spot l := by
  have hstamp : armedStamp (.env s d a : Ev) = none := by
    cases a with
    | workStep => exact absurd rfl ha
    | _ => simp [armedStamp, stamped]
  have hreturn : returning (.env s d a) l = none := by
    cases a with
    | workStep => exact absurd rfl ha
    | _ => rfl
  refine ⟨hstamp, ?_⟩
  simp [spot, Spot.next, drainsWake, hstamp, hreturn]

/-- The moves that run no handler leave what `wake_signal` writes, and
those that start none leave the running one. -/
private theorem idle_move (cfg : Config) {a : Move} {d : Dev}
    (hcan : can a d = true) (ha : a ≠ .workStep) :
    (move cfg a d).semWake = d.semWake ∧ (move cfg a d).pending = d.pending
      ∧ (a ≠ .workStart → (move cfg a d).busy = d.busy) := by
  refine ⟨move_semWake cfg hcan ha, ?_⟩
  cases a with
  | workStep => exact absurd rfl ha
  | workStart =>
      simp only [move]
      split <;> exact ⟨rfl, fun h => absurd rfl h⟩
  | vbusIn | vbusOut | jolt => exact ⟨rfl, fun _ => rfl⟩
  | _ => exact ⟨(move_rests cfg rfl d).pending,
      fun _ => (move_rests cfg rfl d).busy⟩

/-- Dozing lasts, whatever the device does. The one move with work to it is a
step of the handler. -/
theorem dozing_stable (cfg : Config) :
    Stable (device cfg) Free (Dozing cfg) := by
  intro w a h hmay _
  have hcan : can a w.dev = true := hmay
  by_cases hstep : a = .workStep
  · rw [hstep] at hcan ⊢
    exact dozing_step h hcan
  have hspot : spot (w.moved (device cfg) a).log = spot w.log :=
    (spot_quiet hstep).2
  obtain ⟨hsem, hpend, hbusy⟩ := idle_move cfg hcan hstep
  refine ⟨h.tracked.moved hcan, h.waits, fun hs => ?_, fun hs => ?_⟩
  · obtain ⟨hmotion, hrest⟩ := h.stamped (hspot.symm.trans hs)
    by_cases hstart : a = .workStart
    · -- a handler is running, so none is started
      rw [hstart] at hcan
      have hidle : w.dev.busy = [] ∧ w.dev.queue ≠ [] := by
        simpa [can] using hcan
      rcases hrest with hrest | ⟨hrest, _⟩
      · cases hidle.1.symm.trans hrest
      · cases hidle.1.symm.trans hrest
    · have hwork : atWork (w.moved (device cfg) a).log = atWork w.log := by
        cases a with
        | workStart => exact absurd rfl hstart
        | _ => rfl
      refine ⟨hwork.trans hmotion, ?_⟩
      show (move cfg a w.dev).busy = _
        ∨ (move cfg a w.dev).busy = _ ∧ (move cfg a w.dev).pending = _
      rw [hbusy hstart, hpend]
      exact hrest
  · show (move cfg a w.dev).semWake = true
      ∧ ((move cfg a w.dev).pending = _ ∨ (move cfg a w.dev).pending = _)
    rw [hsem, hpend]
    exact h.through (hspot.symm.trans hs)

/-- After the wait, before its reason is read: a jolt it caught ended it,
and the reason is no timer's. -/
structure Stirring (cfg : Config) (r : Int) (w : Tracker) : Prop where
  tracked : Tracked cfg w
  up : waits w.log = false
  caught : spot w.log = .caught →
    r = 0 ∧ (w.dev.pending = .vbus ∨ w.dev.pending = .motion)

/-- Once the wait is over a handler can still change the reason, but only to
another that is no timer's. -/
theorem stirring_stable (cfg : Config) (r : Int) :
    Stable (device cfg) Free (Stirring cfg r) := by
  intro w a h hmay _
  have hcan : can a w.dev = true := hmay
  refine ⟨h.tracked.moved hcan, h.up, fun hs => ?_⟩
  obtain ⟨hr, hpend⟩ := h.caught (spot_awake h.up hs).2
  refine ⟨hr, ?_⟩
  show (move cfg a w.dev).pending = _ ∨ (move cfg a w.dev).pending = _
  by_cases hstep : a = .workStep
  · rw [hstep] at hcan ⊢
    have hne : w.dev.busy ≠ [] := by simpa [can] using hcan
    obtain ⟨m, ms, hb⟩ := List.exists_cons_of_ne_nil hne
    rcases h.tracked.manned with hnil | ⟨work, t, hwork, hsuf⟩
    · exact absurd hnil hne
    rw [hb] at hsuf
    simp only [move, hb]
    cases m with
    | pend r => exact pend_reason hsuf
    | _ => exact hpend
  · rw [(idle_move cfg hcan hstep).2.1]
    exact hpend

/-- Between a sleep and the cycle it ends in: a jolt it caught woke the
cycle, or VBUS did. -/
structure Roused (cfg : Config) (wr : WakeReason) (w : Tracker) : Prop where
  tracked : Tracked cfg w
  up : waits w.log = false
  caught : spot w.log = .caught → wr = .vbus ∨ wr = .motion

/-- A jolt handled now is astray and asks for nothing. -/
theorem roused_frame (cfg : Config) (wr : WakeReason) :
    Frame (device cfg) Free (ServedIffInTime cfg) (Roused cfg wr)
      (Off [.wake]) (Keep []) where
  stable := fun _ _ h hcan _ =>
    ⟨h.tracked.moved hcan, h.up, fun hs => h.caught (spot_awake h.up hs).2⟩
  calls := fun _ _ r ho h _ _ =>
    ⟨h.tracked.call (joltServed_call ho r), (waits_kept ho r).trans h.up,
      fun hs => h.caught ((spot_call (drainsWake_call ho r)).symm.trans hs)⟩
  writes := fun _ _ _ h =>
    ⟨⟨h.tracked.kept, h.tracked.manned, h.tracked.covered⟩, h.up, h.caught⟩
  gives := fun _ h => h.tracked.kept

/-- The wait ends early where it caught a jolt. -/
theorem wait_stirs (ms : Nat) :
    Triple (device cfg) Free (ServedIffInTime cfg) (Dozing cfg)
      (call (.semTake .wake ms)) fun r => Stirring cfg r := by
  refine Triple.op (dozing_stable cfg) fun w (r : Int) h hok _ => ?_
  have htracked : Tracked cfg (w.called (device cfg) (.semTake .wake ms) r) :=
    h.tracked.call Iff.rfl
  refine ⟨htracked.kept, htracked, rfl, fun hs => ?_⟩
  have hspot : spot (w.called (device cfg) (.semTake .wake ms) r).log
      = spot w.log := spot_call rfl
  obtain ⟨hsem, hpend⟩ := h.through (hspot.symm.trans hs)
  have hr : r = 0 := (take_answer hok).mpr hsem
  refine ⟨hr, ?_⟩
  show (act (.semTake .wake ms) r w.dev).pending = _
    ∨ (act (.semTake .wake ms) r w.dev).pending = _
  rw [hr]
  exact hpend

/-- And `wake_wait` returns its reason. -/
theorem reason_read :
    Triple (device cfg) Free (ServedIffInTime cfg) (Stirring cfg 0)
      (call .pendingGet) fun wr => Roused cfg wr := by
  refine Triple.op (stirring_stable cfg 0) fun w (r : WakeReason) h hok _ => ?_
  have htracked : Tracked cfg (w.called (device cfg) .pendingGet r) :=
    h.tracked.call Iff.rfl
  have hr : r = w.dev.pending := by simpa [device, ok] using hok
  refine ⟨htracked.kept, htracked, h.up, fun hs => ?_⟩
  have hspot : spot (w.called (device cfg) .pendingGet r).log = spot w.log :=
    spot_call rfl
  rw [hr]
  exact (h.caught (hspot.symm.trans hs)).2

-- ================================================================ the cycle

/-- In a cycle that `wr` woke: where its sleep caught a jolt, motion did, or
VBUS was observed. -/
structure Risen (cfg : Config) (wr : WakeReason) (w : Tracker) : Prop where
  tracked : Tracked cfg w
  up : waits w.log = false
  cycle : w.log.findSome? cycleWord = some wr
  answered : spot w.log = .caught → wr = .motion ∨ unserved w.log = none

/-- What a law about the awake part does not look at. -/
abbrev awakeGroups : List Group := .wake :: cycleGroups

/-- Where VBUS was observed, it stays so until the next jolt. -/
private theorem unserved_stays {w : Tracker} {o : Op} (r : o.Ret)
    (h : unserved w.log = none) :
    unserved (w.called (device cfg) o r).log = none := by
  rcases unserved_call (s := w.st) (d := w.dev) (l := w.log) o r with hr | hr
  · exact hr.trans h
  · exact hr

/-- What a cycle knows of its sleep outlasts the cycle. -/
theorem risen_frame (cfg : Config) (wr : WakeReason) :
    Frame (device cfg) Free (ServedIffInTime cfg) (Risen cfg wr)
      (Off awakeGroups) (Keep []) where
  stable := fun w a h hcan _ => by
    refine ⟨h.tracked.moved hcan, h.up, h.cycle, fun hs => ?_⟩
    obtain ⟨hnone, hcaught⟩ := spot_awake h.up hs
    exact (h.answered hcaught).imp_right
      (record_quiet (l := w.log) hnone).1.trans
  calls := fun w o r ho h _ _ => by
    have hwake : Off [.wake] o := ho.mono (by simp)
    have hcycle : (w.called (device cfg) o r).log.findSome? cycleWord
        = w.log.findSome? cycleWord := by
      show (Event.call w.st w.dev o r :: w.log).findSome? cycleWord = _
      rw [List.findSome?_cons, cycleWord_call (ho.mono (by simp))]
    refine ⟨h.tracked.call (joltServed_call hwake r),
      (waits_kept hwake r).trans h.up, hcycle.trans h.cycle, fun hs => ?_⟩
    have hcaught := (spot_call (drainsWake_call hwake r)).symm.trans hs
    exact (h.answered hcaught).imp_right (unserved_stays r)
  writes := fun _ _ _ h => ⟨⟨h.tracked.kept, h.tracked.manned,
    h.tracked.covered⟩, h.up, h.cycle, h.answered⟩
  gives := fun _ h => h.tracked.kept

/-- The top of a cycle: its mark says what woke it, and VBUS as the reason
is an observation of VBUS. -/
theorem topOfCycle_risen (wr : WakeReason) :
    Triple (device cfg) Free (ServedIffInTime cfg) (Roused cfg wr)
      (topOfCycle wr) fun _ => Risen cfg wr := by
  have henter : Triple (device cfg) Free (ServedIffInTime cfg)
      (Roused cfg wr) (call (.enter (.cycle wr))) fun _ => Risen cfg wr := by
    refine Triple.op (roused_frame cfg wr).stable fun w r h _ _ => ?_
    have htracked : Tracked cfg
        (w.called (device cfg) (.enter (.cycle wr)) r) :=
      h.tracked.call Iff.rfl
    refine ⟨htracked.kept, htracked, h.up, rfl, fun hs => ?_⟩
    have hspot : spot (w.called (device cfg) (.enter (.cycle wr)) r).log
        = spot w.log := spot_call rfl
    rcases h.caught (hspot.symm.trans hs) with rfl | rfl
    · exact .inr rfl
    · exact .inl rfl
  have R : Frame (device cfg) Free (ServedIffInTime cfg) (Risen cfg wr) _ _ :=
    risen_frame cfg wr
  refine henter.bind fun _ => ?_
  refine part R (g := [.plain]) (v := [.phase, .batterySleeps])
    ?_ (by simp) (by simp)
  simp [watchdogPhase, watchdogFeed, Var.forall]

/-- The loop has looked since the jolt that a sleep caught. -/
def Looked (w : Tracker) : Prop :=
  spot w.log = .caught → joltSince w.log = false

/-- And so does having looked. -/
theorem seen_frame (cfg : Config) (wr : WakeReason) :
    Frame (device cfg) Free (ServedIffInTime cfg)
      (fun w => Risen cfg wr w ∧ Looked w) (Off awakeGroups) (Keep []) where
  stable := fun w a h hcan hG => by
    refine ⟨(risen_frame cfg wr).stable w a h.1 hcan hG, fun hs => ?_⟩
    obtain ⟨hnone, hcaught⟩ := spot_awake h.1.up hs
    exact (record_quiet (l := w.log) hnone).2.trans (h.2 hcaught)
  calls := fun w o r ho h hok hG => by
    refine ⟨(risen_frame cfg wr).calls w o r ho h.1 hok hG, fun hs => ?_⟩
    have hwake : Off [.wake] o := ho.mono (by simp)
    have hcaught := (spot_call (drainsWake_call hwake r)).symm.trans hs
    exact joltSince_call o r (h.2 hcaught)
  writes := fun w f hf h => ⟨(risen_frame cfg wr).writes w f hf h.1, h.2⟩
  gives := fun _ h => h.1.tracked.kept

/-- Looks aside, what is known of the stamp on record is kept. -/
theorem known_frame (cfg : Config) (wr : WakeReason)
    {fact : Nat → Dev → Prop} (hF : Grows fact) :
    Frame (device cfg) Free (ServedIffInTime cfg)
      (fun w => (Risen cfg wr w ∧ Looked w) ∧ Known fact w)
      (Off (awakeGroups ++ lookGroups)) (Keep []) where
  stable := fun w a h hcan hG =>
    ⟨(seen_frame cfg wr).stable w a h.1 hcan hG,
      known_move hF hcan h.1.1.tracked.covered h.2⟩
  calls := fun w o r ho h hok hG =>
    ⟨(seen_frame cfg wr).calls w o r (ho.mono (by simp)) h.1 hok hG,
      known_call cfg hF (lookWord_call (ho.mono (by simp)) r) h.2⟩
  writes := fun w f hf h => ⟨(seen_frame cfg wr).writes w f hf h.1, h.2⟩
  gives := fun _ h => h.1.1.tracked.kept

-- ================================================================ the looks

/-- The two reads of `motion_last_event_uptime`: what they give is no
earlier than the stamp on record. -/
theorem motionLastEventUptime_known (hwake : cfg.motionWake = true)
    (wr : WakeReason) :
    Triple (device cfg) Free (ServedIffInTime cfg)
      (fun w => Risen cfg wr w ∧ Looked w) (motionLastEventUptime cfg)
      fun last w => (Risen cfg wr w ∧ Looked w) ∧
        ∃ n : Nat, last = n ∧ Known (ReadBoth n) w := by
  -- the low word under the high word of this moment is no earlier,
  have hlow : Triple (device cfg) Free (ServedIffInTime cfg)
      (fun w => Risen cfg wr w ∧ Looked w) (call .lastEventLoGet)
      fun (lo : Nat) w =>
        (Risen cfg wr w ∧ Looked w) ∧ Known (ReadLow lo) w := by
    refine (seen_frame cfg wr).ask (by simp [Off])
      fun w (r : Nat) h hok _ t ht _ => ?_
    have hr : r = w.dev.lastEventLo := by simpa [device, ok] using hok
    have hread : (unserved w.log).getD 0 ≤ w.dev.lastEvent :=
      h.1.tracked.covered.read
    rcases unserved_call (s := w.st) (d := w.dev) (l := w.log)
      .lastEventLoGet r with hrec | hrec
    · rw [hrec.symm.trans ht] at hread
      show t ≤ w.dev.lastEventHi * 4294967296 + r
      rw [hr]
      exact hread
    · cases hrec.symm.trans ht
  -- and the high word only grows until it is read
  have hhigh : ∀ lo : Nat, Triple (device cfg) Free (ServedIffInTime cfg)
      (fun w => (Risen cfg wr w ∧ Looked w) ∧ Known (ReadLow lo) w)
      (call .lastEventHiGet) fun (hi : Nat) w =>
        (Risen cfg wr w ∧ Looked w) ∧
          Known (ReadBoth (hi * 4294967296 + lo)) w := by
    intro lo
    refine Triple.post (R := fun (hi : Nat) w =>
        ((Risen cfg wr w ∧ Looked w) ∧ Known (ReadLow lo) w) ∧
          Known (ReadBoth (hi * 4294967296 + lo)) w)
      ((known_frame cfg wr (readLow_grows lo)).ask (by simp [Off])
        fun w (r : Nat) h hok hj t ht hpos => ?_) fun r w h => ⟨h.1.1, h.2⟩
    have hr : r = w.dev.lastEventHi := by simpa [device, ok] using hok
    have hlow := known_call cfg (readLow_grows lo)
      (o := .lastEventHiGet) (lookWord_call (by simp [Off]) r) h.2 hj t ht
      hpos
    show t ≤ r * 4294967296 + lo
    rw [hr]
    exact hlow
  have hskip : (!cfg.motionWake) = false := by rw [hwake]; rfl
  simp only [motionLastEventUptime, hskip, Bool.false_eq_true, if_false]
  refine hlow.bind fun lo => (hhigh lo).bind fun hi => Triple.ret fun w h => ?_
  exact ⟨h.1, _, rfl, h.2⟩

/-- A return keeps what is known of the stamp on record. -/
private theorem leave_known (wr : WakeReason) (b : Bool) (c : Int) :
    Triple (device cfg) Free (ServedIffInTime cfg)
      (fun w => (Risen cfg wr w ∧ Looked w) ∧ Known (Aged cfg) w)
      (call (.leave (.surgeActive b) c))
      fun _ w => (Risen cfg wr w ∧ Looked w) ∧ Known (Aged cfg) w := by
  refine Triple.op (known_frame cfg wr (aged_grows cfg)).stable
    fun w r h hok hG => ?_
  have hseen := (seen_frame cfg wr).calls w (.leave (.surgeActive b) c) r
    (by simp [Off]) h.1 hok hG
  exact ⟨hseen.1.tracked.kept, hseen,
    known_call cfg (aged_grows cfg) (lookWord_leave b c r) h.2⟩

/-- The surge is asked for: it is over only where the two words tell that
the stamp on record is out of the window. -/
private theorem surge_asked (hwake : cfg.motionWake = true) :
    Triple (device cfg) Free (ServedIffInTime cfg)
      (fun w => Risen cfg .motion w ∧ Looked w) (do
        let last ← motionLastEventUptime cfg
        if last = 0 then pure false
        else
          let now ← call .kUptimeGet
          pure (decide (now - last < cfg.motionSurgeSeconds * 1000)))
      fun b w => (Risen cfg .motion w ∧ Looked w) ∧
        (b = false → Known (Aged cfg) w) := by
  refine (motionLastEventUptime_known hwake .motion).bind fun last =>
    Triple.ite (fun hzero => ?_) fun _ => ?_
  · refine Triple.ret fun w h => ⟨h.1, fun _ hj t ht hpos => ?_⟩
    -- read as no jolt, so there was none, or one of uptime zero
    obtain ⟨_, n, hn, hread⟩ := h
    have htn : t ≤ n := hread hj t ht hpos
    have hn0 : n = 0 := Int.natCast_eq_zero.mp (hn.symm.trans hzero)
    omega
  · have hnow : Triple (device cfg) Free (ServedIffInTime cfg)
        (fun w => (Risen cfg .motion w ∧ Looked w) ∧
          ∃ n : Nat, last = n ∧ Known (ReadBoth n) w) (call .kUptimeGet)
        fun (now : Int) w => (Risen cfg .motion w ∧ Looked w) ∧
          (¬now - last < cfg.motionSurgeSeconds * 1000 →
            Known (Aged cfg) w) := by
      intro w h
      obtain ⟨hst, n, hn, hread⟩ := h
      refine ((known_frame cfg .motion (readBoth_grows n)).ask (by simp [Off])
        (R := fun (now : Int) w' =>
          ¬now - last < cfg.motionSurgeSeconds * 1000 → now = w'.dev.now)
          fun w r _ hok _ => ?_).post
        (fun now w h => ⟨h.1.1, fun hlong hj t ht hpos => ?_⟩) w ⟨hst, hread⟩
      -- the clock is read after the words
      · have hr : r = (w.dev.now : Int) := by simpa [device, ok] using hok
        rw [hr]
        show (w.dev.now : Int) = ((effect .kUptimeGet r w.dev).now : Int)
        rw [effect_now]
      · have hle : t ≤ n := h.1.2 hj t ht hpos
        have hnow := h.2 hlong
        show t + cfg.motionSurgeSeconds * 1000 ≤ w.dev.now
        omega
    exact hnow.bind fun now => Triple.ret fun w h =>
      ⟨h.1, fun hb => h.2 (of_decide_eq_false hb)⟩

/-- `surge_active` looks, and where motion woke the cycle it answers false
only over a jolt that is out of the window. -/
theorem surgeActive_known (hwake : cfg.motionWake = true) (wr : WakeReason) :
    Triple (device cfg) Free (ServedIffInTime cfg) (Risen cfg wr)
      (surgeActive cfg (wr == .motion)) fun b w =>
        (Risen cfg wr w ∧ Looked w) ∧
          (b = false → wr = .motion → Known (Aged cfg) w) := by
  have S : Frame (device cfg) Free (ServedIffInTime cfg)
      (fun w => Risen cfg wr w ∧ Looked w) _ _ := seen_frame cfg wr
  have henter : ∀ b, Triple (device cfg) Free (ServedIffInTime cfg)
      (Risen cfg wr) (call (.enter (.surgeActive b)))
      fun _ w => Risen cfg wr w ∧ Looked w := by
    intro b
    refine Triple.op (risen_frame cfg wr).stable fun w r h hok hG => ?_
    have hrisen := (risen_frame cfg wr).calls w (.enter (.surgeActive b)) r
      (by simp [Off]) h hok hG
    exact ⟨hrisen.tracked.kept, hrisen, fun _ => rfl⟩
  by_cases hmotion : wr = .motion
  · rw [hmotion] at S henter ⊢
    have hasked : (!(WakeReason.motion == .motion) || !cfg.motionWake)
        = false := by rw [hwake]; rfl
    refine triple_scope (henter _) (R := fun b w =>
      (Risen cfg .motion w ∧ Looked w) ∧ (b = false → Known (Aged cfg) w)) ?_
      fun b => ?_
    · rw [hasked]
      exact surge_asked hwake
    · cases b with
      | true =>
          exact (leave_keeps S (by simp)).conseq (fun w h => h.1)
            fun _ w h => ⟨h, by simp⟩
      | false =>
          exact (leave_known .motion _ _).conseq (fun w h => ⟨h.1, h.2 rfl⟩)
            fun _ w h => ⟨h.1, fun _ _ => h.2⟩
  · have hasked : (!(wr == .motion) || !cfg.motionWake) = true := by
      simp [hmotion]
    refine triple_scope (henter _) (R := fun _ w =>
      Risen cfg wr w ∧ Looked w) ?_ fun b => ?_
    · rw [hasked]
      exact Triple.ret fun w h => h
    · exact (leave_keeps S (by cases wr == .motion <;> simp)).post
        fun _ w h => ⟨h, fun _ h' => absurd h' hmotion⟩

-- ================================================== the way into the sleep

/-- From the end of the frequent loop to the drain: a cycle that motion woke
is past the window of every jolt it has looked for, and a jolt that a sleep
caught is one of those, or VBUS was observed. -/
structure Closing (cfg : Config) (w : Tracker) : Prop where
  up : waits w.log = false
  aged : motionCycle w.log = true → Known (Aged cfg) w
  answered : spot w.log = .caught →
    motionCycle w.log = true ∨ unserved w.log = none
  looked : Looked w

/-- The end of the frequent loop, from what the cycle knows. -/
theorem Risen.closing {wr : WakeReason} {w : Tracker} (h : Risen cfg wr w)
    (hlooked : Looked w) (haged : wr = .motion → Known (Aged cfg) w) :
    Closing cfg w := by
  have hcycle : motionCycle w.log = true ↔ wr = .motion := by
    unfold motionCycle
    rw [h.cycle]
    simp
  exact ⟨h.up, fun hm => haged (hcycle.mp hm), fun hs =>
    (h.answered hs).imp_left hcycle.mpr, hlooked⟩

/-- What a law about the way into the sleep does not look at. -/
abbrev closedGroups : List Group := awakeGroups ++ lookGroups

/-- A jolt on the way into the sleep reopens the record, and then nothing is
claimed of it; -/
theorem Closing.moved {w : Tracker} (h : Closing cfg w)
    (ht : Tracked cfg w) {a : Move} (hcan : can a w.dev = true) :
    Closing cfg (w.moved (device cfg) a) := by
  refine ⟨h.up, fun hm => known_move (aged_grows cfg) hcan ht.covered
    (h.aged hm), fun hs => ?_, fun hs => ?_⟩
  · obtain ⟨hnone, hcaught⟩ := spot_awake h.up hs
    exact (h.answered hcaught).imp_right
      (record_quiet (l := w.log) hnone).1.trans
  · obtain ⟨hnone, hcaught⟩ := spot_awake h.up hs
    exact (record_quiet (l := w.log) hnone).2.trans (h.looked hcaught)

/-- calls that neither look nor wait leave it all as it was. -/
theorem Closing.called {w : Tracker} (h : Closing cfg w) {o : Op}
    (r : o.Ret) (hwait : waitWord (.call w.st w.dev o r : Ev) = none)
    (ho : Off (cycleGroups ++ lookGroups) o) :
    Closing cfg (w.called (device cfg) o r) := by
  have hcycle : motionCycle (w.called (device cfg) o r).log
      = motionCycle w.log := by
    show motionCycle (.call w.st w.dev o r :: w.log) = _
    simp only [motionCycle, List.findSome?_cons,
      cycleWord_call (ho.mono (by simp))]
  have hup : waits (w.called (device cfg) o r).log = waits w.log := by
    show waits (.call w.st w.dev o r :: w.log) = _
    simp only [waits, List.findSome?_cons, hwait]
  have hdrain : drainsWake (.call w.st w.dev o r : Ev) = false := by
    cases o with
    | semReset t => cases t <;> first | rfl | cases hwait
    | _ => rfl
  have hspot : spot (w.called (device cfg) o r).log = spot w.log :=
    spot_call hdrain
  refine ⟨hup.trans h.up, fun hm => known_call cfg (aged_grows cfg)
    (lookWord_call (ho.mono (by simp)) r) (h.aged (hcycle.symm.trans hm)),
    fun hs => ?_, fun hs => joltSince_call o r
      (h.looked (hspot.symm.trans hs))⟩
  rw [hcycle]
  exact (h.answered (hspot.symm.trans hs)).imp_right (unserved_stays r)

/-- On the way into a sleep: into the last one of a cycle. -/
def Ending (cfg : Config) (site : SleepSite) (w : Tracker) : Prop :=
  Tracked cfg w ∧ (site = .endOfCycle → Closing cfg w)

/-- The same with the site of the sleep said from outside, -/
theorem ending_frame (cfg : Config) (site : SleepSite) :
    Frame (device cfg) Free (ServedIffInTime cfg) (Ending cfg site)
      (Off closedGroups) (Keep []) where
  stable := fun _ _ h hcan _ =>
    ⟨h.1.moved hcan, fun hs => (h.2 hs).moved h.1 hcan⟩
  calls := fun w o r ho h hok hG =>
    ⟨(tracked_frame cfg).calls w o r (ho.mono (by simp)) h.1 hok hG,
      fun hs => (h.2 hs).called r (waitWord_call (ho.mono (by simp)) r)
        (ho.mono (by simp))⟩
  writes := fun w f hf h =>
    ⟨(tracked_frame cfg).writes w f hf h.1, fun hs =>
      ⟨(h.2 hs).up, (h.2 hs).aged, (h.2 hs).answered, (h.2 hs).looked⟩⟩
  gives := fun w h => h.1.kept

/-- What the drain of the sleep entered last needs. -/
def Drainable (cfg : Config) (w : Tracker) : Prop :=
  Tracked cfg w ∧ (inLastSleep w.log = true → Closing cfg w)

/-- and read off the record. -/
theorem drainable_frame (cfg : Config) :
    Frame (device cfg) Free (ServedIffInTime cfg) (Drainable cfg)
      (Off (closedGroups ++ sleepCalls)) (Keep []) where
  stable := fun _ _ h hcan _ =>
    ⟨h.1.moved hcan, fun hl => (h.2 hl).moved h.1 hcan⟩
  calls := fun w o r ho h hok hG => by
    have hsleep : inLastSleep (.call w.st w.dev o r :: w.log)
        = inLastSleep w.log := inLastSleep_call (ho.mono (by simp)) ..
    exact ⟨(tracked_frame cfg).calls w o r (ho.mono (by simp)) h.1 hok hG,
      fun hl => (h.2 (hsleep.symm.trans hl)).called r
        (waitWord_call (ho.mono (by simp)) r) (ho.mono (by simp))⟩
  writes := fun w f hf h =>
    ⟨(tracked_frame cfg).writes w f hf h.1, fun hl =>
      ⟨(h.2 hl).up, (h.2 hl).aged, (h.2 hl).answered, (h.2 hl).looked⟩⟩
  gives := fun w h => h.1.kept

/-- A jolt that somebody looks for is out of the window at the drain. -/
theorem Closing.served {w : Tracker} (h : Closing cfg w)
    (hattended : attended w.log = true) :
    settled cfg w.dev.now w.log = true := by
  obtain ⟨hpos, hwhere⟩ := Bool.and_eq_true_iff.mp hattended
  refine settled_iff.mpr fun t ht => ?_
  have ht0 : t ≠ 0 := by
    rintro rfl
    simp [ht] at hpos
  rcases Bool.or_eq_true_iff.mp hwhere with hmotion | hcaught
  · obtain ⟨hcycle, hlook⟩ := Bool.and_eq_true_iff.mp hmotion
    exact h.aged hcycle (by simpa using hlook) t ht ht0
  · have hspot : spot w.log = .caught := by simpa using hcaught
    rcases h.answered hspot with hcycle | hnone
    · exact h.aged hcycle (h.looked hspot) t ht ht0
    · cases hnone.symm.trans ht

/-- So the drain drops an unserved jolt exactly where nobody looks for
it. -/
theorem Closing.exact {w : Tracker} (h : Closing cfg w) :
    settled cfg w.dev.now w.log = true ↔
      (strayJolt w.log).all (fun t =>
        decide (t + cfg.motionSurgeSeconds * 1000 ≤ w.dev.now)) = true := by
  unfold strayJolt
  split
  next hattended => simp [h.served hattended]
  · rw [settled_iff]
    cases unserved w.log with
    | none => simp
    | some t => simp

-- =============================================================== the sleep

/-- The drain: the promise is due, and the wait begins with nothing
caught. -/
theorem drain_dozes :
    Triple (device cfg) Free (ServedIffInTime cfg) (Drainable cfg)
      (call (.semReset .wake)) fun _ => Dozing cfg := by
  refine Triple.op (drainable_frame cfg).stable fun w r h _ _ => ?_
  have hkept : JoltServed cfg (.call w.st w.dev (.semReset .wake) r : Ev) w.log
      ↔ JoltsInTime cfg (.call w.st w.dev (.semReset .wake) r : Ev) w.log := by
    simp only [JoltServed, JoltsInTime, joltServed, joltsInTime]
    cases hl : inLastSleep w.log with
    | false => simp
    | true => simpa using (h.2 hl).exact
  have htracked : Tracked cfg (w.called (device cfg) (.semReset .wake) r) :=
    h.1.call hkept
  refine ⟨htracked.kept, htracked, rfl, fun hs => ?_, fun hs => ?_⟩
  · cases hs
  · cases hs

/-- `wake_wait`: its drain keeps the promise, and its wait catches the jolts
handled in it. -/
theorem wakeWait_rouses (seconds : Nat) :
    Triple (device cfg) Free (ServedIffInTime cfg) (Drainable cfg)
      (wakeWait seconds) fun wr => Roused cfg wr := by
  have D : Frame (device cfg) Free (ServedIffInTime cfg) (Drainable cfg)
      _ _ := drainable_frame cfg
  have hclear : Triple (device cfg) Free (ServedIffInTime cfg)
      (Drainable cfg) (call (.pendingSet .timer)) fun _ => Drainable cfg := by
    refine Triple.op D.stable fun w r h _ _ => ?_
    have htracked : Tracked cfg
        (w.called (device cfg) (.pendingSet .timer) r) := h.1.call Iff.rfl
    exact ⟨htracked.kept, htracked, fun hl =>
      (h.2 hl).called (o := .pendingSet .timer) r rfl (by simp [Off])⟩
  refine triple_scope (enter_keeps D (by simp)) (R := fun wr => Roused cfg wr)
    ?_ fun wr => leave_keeps (roused_frame cfg wr) (by simp)
  refine hclear.bind fun _ => drain_dozes.bind fun _ =>
    (wait_stirs (seconds * 1000)).bind fun r => Triple.ite (fun hr => ?_)
    fun hr => ?_
  · -- timed out, so nothing was caught
    exact Triple.ret fun w h =>
      ⟨h.tracked, h.up, fun hs => absurd (h.caught hs).1 hr⟩
  · have hzero : r = 0 := Decidable.not_not.mp hr
    rw [hzero]
    exact reason_read

/-- `battery_sleep`. -/
theorem batterySleep_rouses (site : SleepSite) :
    Triple (device cfg) Free (ServedIffInTime cfg) (Ending cfg site)
      (batterySleep cfg site) fun wr => Roused cfg wr := by
  have D : Frame (device cfg) Free (ServedIffInTime cfg) (Drainable cfg)
      _ _ := drainable_frame cfg
  -- from the site of the sleep to the record of it
  have henter : Triple (device cfg) Free (ServedIffInTime cfg)
      (Ending cfg site) (call (.enter (.batterySleep site)))
      fun _ => Drainable cfg := by
    refine Triple.op (ending_frame cfg site).stable fun w r h _ _ => ?_
    have htracked : Tracked cfg
        (w.called (device cfg) (.enter (.batterySleep site)) r) :=
      h.1.call Iff.rfl
    refine ⟨htracked.kept, htracked, fun hl => ?_⟩
    have hsite : (some site == some SleepSite.endOfCycle) = true := hl
    exact (h.2 (by simpa using hsite)).called
      (o := .enter (.batterySleep site)) r rfl (by simp [Off])
  have hwait : Triple (device cfg) Free (ServedIffInTime cfg)
      (Drainable cfg) (do
        watchdogPhase .sleep
        wakeWait cfg.sleepSeconds) fun wr => Roused cfg wr :=
    (part D (watchdogPhase_foot _) (by simp) (by simp)).bind fun _ =>
      wakeWait_rouses _
  -- no jolt is looked for from here to the drain
  refine triple_scope henter (R := fun wr => Roused cfg wr) ?_
    fun wr => leave_keeps (roused_frame cfg wr) (by simp)
  refine Triple.get fun s => Triple.pre (P := Drainable cfg) ?_ fun w h => h.1
  refine (part D (watchdogPhase_foot _) (by simp) (by simp)).bind fun _ =>
    (part D (statusLedSleep_foot cfg) (by simp) (by simp)).bind fun _ =>
    (part D (watchdogPhase_foot _) (by simp) (by simp)).bind fun _ =>
    (part D (motionSetArmed_foot cfg _) (by simp) (by simp)).bind fun _ =>
    Triple.ite (fun _ => ?_) fun _ => hwait
  refine (part D (g := []) (v := [.batterySleeps])
    (by simp [Var.forall]) (by simp) (by simp)).bind fun _ => ?_
  exact hwait

-- ================================================================= the law

/-- The condition of the frequent loop: where it fails, the way into the
sleep begins. -/
theorem keepReporting_closes (hwake : cfg.motionWake = true)
    (wr : WakeReason) (site : VbusSite) :
    Triple (device cfg) Free (ServedIffInTime cfg) (Risen cfg wr)
      (keepReporting cfg site (wr == .motion)) fun b w =>
        if b then Risen cfg wr w else Ending cfg .endOfCycle w := by
  refine (part (risen_frame cfg wr) (powerVbusPresent_foot site) (by simp)
    (by simp)).bind fun present => Triple.ite
    (fun _ => Triple.ret fun w h => h) fun _ => ?_
  refine (surgeActive_known hwake wr).post fun b w h => ?_
  cases b with
  | true => exact h.1.1
  | false =>
      exact ⟨h.1.1.tracked, fun _ => h.1.1.closing h.1.2 (h.2 rfl)⟩

/-- The walk: a cycle knows what woke it, and leaves its frequent loop over
no jolt that somebody looks for. -/
theorem jolt_walk (hwake : cfg.motionWake = true) :
    Walk cfg Free (ServedIffInTime cfg) (closingAt (Roused cfg .boot)
      (Roused cfg) (Risen cfg) (Ending cfg)) := by
  have R : ∀ wr, Frame (device cfg) Free (ServedIffInTime cfg)
      (Roused cfg wr) (Off closingGroups) (Keep []) := fun wr =>
    (roused_frame cfg wr).mono (fun _ h => h.mono (by simp)) fun _ _ h => h
  have S : ∀ wr, Frame (device cfg) Free (ServedIffInTime cfg)
      (Risen cfg wr) (Off closingGroups) (Keep []) := fun wr =>
    (risen_frame cfg wr).mono (fun _ h => h.mono (by simp)) fun _ _ h => h
  have E : ∀ site, Frame (device cfg) Free (ServedIffInTime cfg)
      (Ending cfg site) (Off closingGroups) (Keep []) := fun site =>
    (ending_frame cfg site).mono (fun _ h => h.mono (by simp)) fun _ _ h => h
  apply walk_closing (R .boot) R S E
  · exact fun _ h => h
  · exact topOfCycle_risen
  · exact fun _ site hsite w h => ⟨h.tracked, fun hlast => absurd hlast hsite⟩
  · exact fun wr site _ => keepReporting_closes hwake wr site
  · exact batterySleep_rouses

/-- The drain of every sleep at the end of a cycle finds the last armed
jolt out of the surge window, or VBUS observed since it, exactly when that
jolt is out of the window or is one that the code looks for: motion woke
the cycle and it has looked since, or the jolt was handled in the wait of
the sleep before. -/
theorem jolts_served_iff (hwake : cfg.motionWake = true) {n fuel : Nat}
    {w : Tracker} (hw : Booted cfg w) {c : P Int × Tracker}
    (hr : Reach (device cfg) (main cfg n fuel) w c) :
    Always (fun e l => JoltServed cfg e l ↔ JoltsInTime cfg e l)
      c.2.log := by
  refine (jolt_walk hwake).reach (J := ServedIffInTime cfg) ?_ hr
    (always_free _)
  have hnone : unserved w.log = none := by
    rw [hw.log]
    rfl
  refine ⟨⟨?_, .inl hw.busy, ?_⟩, ?_, ?_⟩
  · rw [ServedIffInTime, hw.log]
    trivial
  · rw [hnone]
    refine .idle (by rw [hw.busy]; rfl) (Nat.zero_le _) ?_
    simp only [Dev.lastEvent, hw.lastEventHi, hw.lastEventLo]
    exact Nat.zero_le _
  · rw [hw.log]
    rfl
  · rw [hw.log]
    nofun

/-- A jolt in a sleep, and a surge that lasts it out. -/
theorem jolts_served_asleep :
    (playMain { fixless with motionSurgeSeconds := 60 } (jolted true)
      2 9 900).2.log.any (fun e => armedStamp e == some 121000) = true ∧
    Always (fun e l =>
        JoltServed { fixless with motionSurgeSeconds := 60 } e l
          ↔ JoltsInTime { fixless with motionSurgeSeconds := 60 } e l)
      (playMain { fixless with motionSurgeSeconds := 60 } (jolted true)
        2 9 900).2.log :=
  ⟨by decide +kernel, jolts_served_iff rfl (start_booted _)
    (playMain_reach _ (jolted true) 2 9 900)⟩

/-- A jolt in the awake part of a timer cycle, with the accelerometer
armed: it is handled, no surge is asked for, and the drain drops it. -/
theorem jolt_dropped :
    ∃ w c, Booted fixless w ∧ Reach (device fixless) (main fixless 2 0) w c ∧
      ¬Always (JoltServed fixless) c.2.log :=
  ⟨start fixless, _, start_booted fixless,
    playMain_reach fixless (jolted false) 2 0 600, by decide +kernel⟩

end GpsTracker
