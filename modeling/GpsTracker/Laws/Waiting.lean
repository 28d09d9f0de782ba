/-
What `wake_wait` returns, under every interleaving (wake.c).

`wake_signal` stores its reason and then gives, `wake_wait` clears the
reason and then resets, and any step of one may fall between any two of
another. `wakeBox` makes `wake_signal` the sender of a mailbox, with any
number of callers, and `wakeWait` its owner; the waiter here is the
program `main` runs.

A reason stored before the clear and given after the reset ends the wait
with nothing pending, and the wait reports a timeout that did not happen;
a reason stored but not given yet can be reported for another's give. The
result is honest in all other runs and in no such run.
-/
import GpsTracker.Lib.Mailbox
import GpsTracker.Run.Script

namespace GpsTracker

open Proc

-- ============================================================= wake_signal

/-- The reasons `wake_signal` is called with. -/
abbrev Cause := {r : WakeReason // r ≠ .timer}

/-- `pending` and `wake_sem` as a mailbox. The handlers of the work queue
are senders here, so the device's own `workStep` is none of its moves. -/
def wakeBox : Box Dev Move Cause Calls where
  accepts _ := true
  signals _ := true
  put r d := Micro.run d (.pend r.1)
  give d := Micro.run d .give
  sem := Dev.semWake
  own a := a != .workStep
  clears
    | .pendingSet _ => true
    | _ => false
  drains := drains .wake
  shows _ _ _ := true

theorem wakeBox_fits (cfg : Config) : wakeBox.Fits (device cfg) where
  own _ _ ha hcan := move_semWake cfg hcan (bne_iff_ne.mp ha)
  put _ _ := rfl
  drains _ _ d h := effect_drained (t := .wake) h d
  keeps _ _ d h := effect_undrained (t := .wake) h d

-- =============================================================== the record

variable {ι : Type}

/-- The waiter's world, with callers `ι` of `wake_signal`. -/
abbrev Waiter (ι : Type) :=
  World Statics (Mail wakeBox ι) (Post Move ι Cause) Calls

/-- An event of that world. -/
abbrev WaitEv (ι : Type) :=
  Event Statics (Mail wakeBox ι) (Post Move ι Cause) Calls

/-- Its log. -/
abbrev WaitLog (ι : Type) := MailLog Statics wakeBox ι

/-- How `k_sem_take` ended: on a give, or not. -/
def takeWord : WaitEv ι → Option Bool
  | .call _ _ (.semTake .wake _) r => some (r == (0 : Int))
  | _ => none

/-- The wait was ended by a give. -/
def taken (l : WaitLog ι) : Bool := (l.findSome? takeWord).getD false

/-- Whether the timeout of `k_sem_take` was over when it returned. -/
def elapsedWord : WaitEv ι → Option Bool
  | .call _ m (.semTake .wake ms) _ =>
      some (decide (m.dev.since + ms ≤ m.dev.now))
  | _ => none

/-- The timeout really elapsed. -/
def elapsed (l : WaitLog ι) : Bool := (l.findSome? elapsedWord).getD false

/-- `k_sem_reset`. -/
def isReset : WaitEv ι → Bool
  | .call _ _ (.semReset .wake) _ => true
  | _ => false

/-- The reading of `pending`. -/
def isRead : WaitEv ι → Bool
  | .call _ _ .pendingGet _ => true
  | _ => false

/-- The reason a give was made for. -/
def givesFor : WaitEv ι → Option WakeReason
  | .env _ m (.give i) => (m.due i).map fun f => f.2.1
  | _ => none

/-- A `wake_signal` with reason `r` gave since the reset. -/
def gaveFor (r : WakeReason) : WaitLog ι → Bool
  | [] => false
  | e :: l => if isReset e then false else givesFor e == some r || gaveFor r l

/-- `gaveFor` where `pending` was read. -/
def gaveBeforeRead (r : WakeReason) (l : WaitLog ι) : Bool :=
  (lastTime isRead (fun _ l => gaveFor r l) l).getD false

/-- The reason that was stored last, since the clear, when `pending` was
read. -/
def storedBeforeRead (l : WaitLog ι) : Option Cause :=
  (lastTime isRead (fun _ l => lastPut none l) l).getD none

/-- `r` is an honest result of the wait: the timer's only where the
timeout elapsed, and after a give the reason of a `wake_signal` that gave
after the reset. -/
def honest (r : WakeReason) (l : WaitLog ι) : Bool :=
  (r != .timer || elapsed l) && (!taken l || gaveBeforeRead r l)

/-- The wait timed out, or a reason was stored between the clear and the
read, and the one stored last was given for between the reset and the
read. -/
def inOrder (l : WaitLog ι) : Bool :=
  !taken l || match storedBeforeRead l with
    | none => false
    | some r => gaveBeforeRead r.1 l

/-- Nobody gives for the timer. -/
theorem gaveFor_timer (l : WaitLog ι) : gaveFor .timer l = false := by
  induction l with
  | nil => rfl
  | cons e l ih =>
      unfold gaveFor
      split
      · rfl
      · rw [ih, Bool.or_false, beq_eq_false_iff_ne]
        cases e with
        | call => exact nofun
        | env s m a =>
            cases a with
            | own => exact nofun
            | put => exact nofun
            | give i =>
                show (m.due i).map _ ≠ some WakeReason.timer
                cases m.due i with
                | none => exact nofun
                | some f => exact fun h => f.2.2 (Option.some.inj h)

/-- Events after the read settle nothing more. -/
private theorem settled_cons {r : WakeReason} {e : WaitEv ι} {l : WaitLog ι}
    (htake : takeWord e = none) (htime : elapsedWord e = none)
    (hread : isRead e = false) (h : honest r l = inOrder l) :
    honest r (e :: l) = inOrder (e :: l) := by
  have htaken : taken (e :: l) = taken l := by
    simp only [taken, List.findSome?_cons, htake]
  have helapsed : elapsed (e :: l) = elapsed l := by
    simp only [elapsed, List.findSome?_cons, htime]
  have hgave : ∀ r, gaveBeforeRead r (e :: l) = gaveBeforeRead r l := by
    intro r
    simp only [gaveBeforeRead, lastTime, hread, Bool.false_eq_true, if_false]
  have hstored : storedBeforeRead (e :: l) = storedBeforeRead l := by
    simp only [storedBeforeRead, lastTime, hread, Bool.false_eq_true,
      if_false]
  simpa only [honest, inOrder, htaken, helapsed, hgave, hstored] using h

-- ============================================================== assertions

variable [DecidableEq ι] {cfg : Config}

/-- The waiter's machine. -/
abbrev waiting (cfg : Config) (ι : Type) [DecidableEq ι] :
    Machine (Mail wakeBox ι) (Post Move ι Cause) Calls :=
  (device cfg).fed wakeBox

/-- Since the clear, `pending` is what was stored last. -/
structure Cleared (v₀ : Option Cause) (w : Waiter ι) : Prop where
  kept : Kept v₀ w
  pending : w.dev.dev.pending = (w.dev.slot.map Subtype.val).getD .timer
  clear : (w.log.findSome? putWord).isSome = true

/-- The result `r` is honest where the calls were in order, and only
there. -/
def Settled (r : WakeReason) (w : Waiter ι) : Prop :=
  honest r w.log = inOrder w.log

theorem settled_stable (r : WakeReason) :
    Stable (waiting cfg ι) Free (Settled (ι := ι) r) :=
  fun _ _ h _ _ => settled_cons rfl rfl rfl h

/-- Only a handler's store and the clear write `pending`. -/
private theorem pending_own {a : Move} (ha : (a != .workStep) = true)
    (d : Dev) : (move cfg a d).pending = d.pending := by
  cases a with
  | workStep => cases ha
  | workStart =>
      simp only [move]
      split <;> rfl
  | vbusIn | vbusOut | jolt => rfl
  | _ => exact (move_rests cfg rfl d).pending

theorem cleared_stable (v₀ : Option Cause) :
    Stable (waiting cfg ι) Free (Cleared (ι := ι) v₀) := by
  intro w a h hcan _
  have hkept := h.kept.moved (wakeBox_fits cfg) hcan
  have hclear : ((w.moved (waiting cfg ι) a).log.findSome? putWord).isSome
      = true := by
    show ((_ :: w.log).findSome? putWord).isSome = true
    rw [List.findSome?_cons]
    split
    · rfl
    · exact h.clear
  refine ⟨hkept, ?_, hclear⟩
  cases a with
  | own a =>
      have hown : (a != .workStep) = true := (Bool.and_eq_true_iff.mp hcan).1
      exact (pending_own hown w.dev.dev).trans h.pending
  | put i r => rfl
  | give i => exact h.pending

/-- A call that does not clear keeps `pending` as it was stored. -/
theorem Cleared.called (cfg : Config) {v₀ : Option Cause} {w : Waiter ι}
    (h : Cleared v₀ w)
    (o : Op) (r : o.Ret) (hclear : wakeBox.clears o = false)
    (hpending : (effect o r w.dev.dev).pending = w.dev.dev.pending) :
    Cleared v₀ (w.called (waiting cfg ι) o r) := by
  have heffect : (waiting cfg ι).effect o r w.dev
      = w.dev.withDev (effect o r w.dev.dev) := by
    simp only [waiting, Machine.fed, hclear]
    rfl
  refine ⟨h.kept.called (wakeBox_fits cfg) o r, ?_, ?_⟩
  · show ((waiting cfg ι).effect o r w.dev).dev.pending = _
    rw [heffect]
    show (effect o r w.dev.dev).pending = _
    rw [hpending, h.pending]
    show _ = ((((waiting cfg ι).effect o r w.dev).slot).map _).getD _
    rw [heffect]
    rfl
  · simpa [World.called, List.findSome?_cons, putWord, hclear] using h.clear

-- ================================================================= the law

/-- The take: the semaphore was there, or the timeout is over. -/
theorem take_settles (v₀ : Option Cause) (seconds : Nat) :
    Triple (waiting cfg ι) Free (fun _ => True)
      (Cleared (ι := ι) v₀) (call (.semTake .wake (seconds * 1000)))
      fun (r : Int) w => if r = 0 then Cleared v₀ w ∧ taken w.log = true
        else Settled .timer w := by
  refine Triple.op (cleared_stable v₀) fun w (r : Int) h hok _ => ?_
  have hpend : (effect (.semTake .wake (seconds * 1000)) r
      w.dev.dev).pending = w.dev.dev.pending := by
    simp only [effect, act]
    split <;> rfl
  have h' := h.called cfg (.semTake .wake (seconds * 1000)) r rfl hpend
  refine ⟨trivial, ?_⟩
  by_cases hr : r = 0
  · rw [if_pos hr]
    exact ⟨h', by rw [hr]; rfl⟩
  · -- the answer is a timeout's, so the timeout is over
    rw [if_neg hr]
    have hz : (r == (0 : Int)) = false := beq_eq_false_iff_ne.mpr hr
    have htime : w.dev.dev.since + seconds * 1000 ≤ w.dev.dev.now := by
      have hok' : ok (.semTake .wake (seconds * 1000)) r w.dev.dev = true :=
        (Bool.and_eq_true_iff.mp hok).1
      simp only [ok] at hok'
      split at hok'
      · simp [hz] at hok'
      · simpa using (Bool.and_eq_true_iff.mp hok').2
    simp [Settled, honest, inOrder, taken, elapsed, World.called,
      takeWord, elapsedWord, hz, htime]

/-- The read, after a take: the last value stored, if there is one. -/
theorem read_settles (v₀ : Option Cause) :
    Triple (waiting cfg ι) Free (fun _ => True)
      (fun w : Waiter ι => Cleared v₀ w ∧ taken w.log = true)
      (call .pendingGet) fun r w => Settled r w := by
  have hstable : Stable (waiting cfg ι) Free fun w : Waiter ι =>
      Cleared v₀ w ∧ taken w.log = true :=
    fun w a h hcan hG => ⟨cleared_stable v₀ w a h.1 hcan hG, h.2⟩
  refine Triple.op hstable fun w (r : WakeReason) h hok _ => ⟨trivial, ?_⟩
  obtain ⟨hc, htaken⟩ := h
  have hr : r = (w.dev.slot.map Subtype.val).getD .timer := by
    have hok' : ok .pendingGet r w.dev.dev = true :=
      (Bool.and_eq_true_iff.mp hok).1
    rw [← hc.pending]
    simpa [ok] using hok'
  -- cleared before the wait, the slot holds what was stored since
  have hslot : w.dev.slot = lastPut none w.log := by
    obtain ⟨v, hv⟩ := Option.isSome_iff_exists.mp hc.clear
    rw [hc.kept.slot]
    simp only [lastPut, hv, Option.getD_some]
  generalize he : (.call w.st w.dev .pendingGet r : WaitEv ι) = e
  have hlog : (w.called (waiting cfg ι) .pendingGet r).log = e :: w.log := by
    rw [← he]
    rfl
  have htake : taken (e :: w.log) = true := by
    rw [← he]
    simpa only [taken, List.findSome?_cons, takeWord] using htaken
  have hgave : ∀ r, gaveBeforeRead r (e :: w.log) = gaveFor r w.log := by
    intro r
    rw [← he]
    rfl
  have hstored : storedBeforeRead (e :: w.log) = w.dev.slot := by
    rw [hslot, ← he]
    rfl
  unfold Settled
  rw [hlog]
  simp only [honest, inOrder, htake, hgave, hstored, Bool.not_true,
    Bool.false_or]
  -- nothing stored: the timer, which no handler gives for
  cases hs : w.dev.slot with
  | none =>
      rw [hs] at hr
      rw [hr]
      show (_ && gaveFor .timer w.log) = false
      rw [gaveFor_timer, Bool.and_false]
  | some c =>
      rw [hs] at hr
      have hc : (r != .timer) = true := by
        rw [hr]
        exact bne_iff_ne.mpr c.2
      rw [hc, Bool.true_or, Bool.true_and, hr]
      rfl

/-- The wait, step by step: clear, reset, take, read. -/
theorem wakeWait_settled (v₀ : Option Cause) (seconds : Nat) :
    Triple (waiting cfg ι) Free (fun _ => True) (Kept v₀)
      (wakeWait seconds) Settled := by
  have K : Frame (waiting cfg ι) Free (fun _ => True)
      (Kept (σ := Statics) v₀) _ _ := kept_frame (wakeBox_fits cfg) v₀
  have hset : Triple (waiting cfg ι) Free (fun _ => True) (Kept v₀)
      (call (.pendingSet .timer)) fun _ => Cleared (ι := ι) v₀ :=
    Triple.op K.stable fun w r h _ _ =>
      ⟨trivial, h.called (wakeBox_fits cfg) _ r, rfl, rfl⟩
  have hreset : Triple (waiting cfg ι) Free (fun _ => True)
      (Cleared (ι := ι) v₀) (call (.semReset .wake))
      fun _ => Cleared (ι := ι) v₀ :=
    Triple.op (cleared_stable v₀) fun w r h _ _ =>
      ⟨trivial, h.called cfg (.semReset .wake) r rfl rfl⟩
  refine Triple.bind (K.invariant (call (.enter .wakeWait))) fun _ => ?_
  refine Triple.bind (R := Settled) ?_ fun r => ?_
  · refine hset.bind fun _ => hreset.bind fun _ =>
      (take_settles v₀ seconds).bind fun r =>
      Triple.ite (fun hr => ?_) fun hr => ?_
    · exact Triple.ret fun w h => by rwa [if_neg hr] at h
    · refine (read_settles v₀).pre fun w h => ?_
      rwa [if_pos (Decidable.not_not.mp hr)] at h
  · refine Triple.bind (R := fun _ => Settled r) ?_ fun _ =>
      Triple.ret fun w h => h
    exact Triple.op (settled_stable r) fun w u h _ _ =>
      ⟨trivial, settled_cons rfl rfl rfl h⟩

/-- For every number of callers of `wake_signal`, every state they are in
and every interleaving: `wake_wait` returns an honest result exactly when
the calls were in order. -/
theorem wake_honest_iff {seconds : Nat} {s : Statics} {m : Mail wakeBox ι}
    {r : WakeReason} {w' : Waiter ι}
    (hr : Reach (waiting cfg ι) (wakeWait seconds) ⟨s, m, []⟩ (.ret r, w')) :
    honest r w'.log = inOrder w'.log :=
  (wakeWait_settled m.slot seconds).result (Kept.start ⟨s, m, []⟩ rfl)
    trivial hr (always_free _)

/-- One caller of `wake_signal`, during the wait, or with its store before
the clear. -/
def signalled (straddling : Bool) :
    Script Statics (Mail wakeBox Unit) (Post Move Unit Cause) Calls :=
  fun w o =>
    match o with
    | .pendingSet _ =>
        (if straddling then [.put () ⟨.motion, nofun⟩] else [], ())
    | .semTake .wake _ =>
        (if straddling then [.give ()]
        else [.put () ⟨.motion, nofun⟩, .give ()], (0 : Int))
    | o => ([], calmAnswer w.dev.dev o)

/-- A scripted wait. -/
def playWait (straddling : Bool) : P WakeReason × Waiter Unit :=
  play (waiting fixless Unit) (signalled straddling) 20 (wakeWait 540)
    ⟨Statics.boot fixless 0 0, Mail.resting wakeBox Unit {}, []⟩

theorem playWait_reach {straddling : Bool} {r : WakeReason}
    (h : (playWait straddling).1 = .ret r) :
    Reach (waiting fixless Unit) (wakeWait 540)
      ⟨Statics.boot fixless 0 0, Mail.resting wakeBox Unit {}, []⟩
      (.ret r, (playWait straddling).2) := by
  have hr : Reach (waiting fixless Unit) (wakeWait 540) _
      (playWait straddling) := play_reach .init
  rw [← h]
  exact hr

/-- A jolt signalled during the wait is reported. -/
theorem wake_honest_signalled :
    taken (playWait false).2.log = true ∧
      honest .motion (playWait false).2.log
        = inOrder (playWait false).2.log :=
  ⟨by decide +kernel, wake_honest_iff (playWait_reach rfl)⟩

/-- A jolt stored before the clear and given after the reset: the wait
ends early and reports the timer. -/
theorem wake_mislabelled :
    ∃ s m w', Reach (waiting fixless Unit) (wakeWait 540) ⟨s, m, []⟩
      (.ret .timer, w') ∧ honest .timer w'.log = false :=
  ⟨_, _, _, playWait_reach (rfl : (playWait true).1 = _), by decide +kernel⟩

end GpsTracker
