/-
Power applied on the way into a sleep (main.c, wake.c, power.c).

Between the report loop's last look at VBUS and `wake_wait`'s `k_sem_take`
lie the end of the cycle and the drain at the start of `wake_wait`. The
handler of a VBUS edge that falls in between gives the wake semaphore with
its last step. Where that step falls decides: after the drain, the sleep
ends early; before it, the give is discarded, nobody looks at VBUS again,
and the sleep runs to its timeout under power.

# The argument

`Watched` holds everywhere: an edge since the last look is queued, running,
or among the handlers that have returned, and what is running are the last
steps of the handler started last. `main` comes to the last sleep of a
cycle with the drain still ahead (`Undrained`), and its `wake_wait` drains
once. From there to the end of the wait the semaphore is available exactly
when a handler that wakes has returned since (`Waiting`).
-/
import GpsTracker.Run.Script

namespace GpsTracker

open Proc

variable {cfg : Config}

-- =============================================================== the record

/-- The report loop found the supply absent. -/
def lookedAbsent : Ev → Bool
  | .call _ _ (.leave (.powerVbusPresent .ifCond) r) _ => r == (0 : Int)
  | .call _ _ (.leave (.powerVbusPresent .whileCond) r) _ => r == (0 : Int)
  | _ => false

/-- What an event says about VBUS: the report loop found it absent,
raised since, or gone again. -/
def vbusWord (e : Ev) : Option Bool :=
  if lookedAbsent e then some false
  else match e with
    | .env _ _ .vbusIn => some true
    | .env _ _ .vbusOut => some false
    | _ => none

/-- VBUS was raised after the report loop last found it absent, and has
stayed. -/
def raised (l : Trace) : Bool := (l.findSome? vbusWord).getD false

/-- The way from the last look: whether it has passed the drain, and the
handlers that returned before it and after it, newest first. -/
structure Way where
  drained : Bool := false
  before : List Work := []
  after : List Work := []

/-- The way after a handler returned. -/
def Way.returned (v : Way) (w : Work) : Way :=
  if v.drained then { v with after := w :: v.after }
  else { v with before := w :: v.before }

/-- The way after one more event. -/
def Way.next (v : Way) (e : Ev) (l : Trace) : Way :=
  if lookedAbsent e then {}
  else if drainsWake e then { v with drained := true }
  else match returning e l with
    | none => v
    | some w => v.returned w

/-- The way of a log. -/
def way : Trace → Way
  | [] => {}
  | e :: l => (way l).next e l

/-- The handler of a VBUS edge is queued or has steps left. -/
def unfinished (d : Dev) (l : Trace) : Prop :=
  .vbusDetected ∈ d.queue ∨ atWork l = some .vbusDetected ∧ d.busy ≠ []

/-- An event is the wait of a sleep that power should end: the sleep at
the end of a cycle, with VBUS raised since the last look and still
there. -/
def powerApplied (e : Ev) (l : Trace) : Bool :=
  match e with
  | .call _ _ (.semTake .wake _) _ => inLastSleep l && raised l
  | _ => false

/-- Such a wait ends early. -/
def wakesEarly (e : Ev) (l : Trace) : Bool :=
  !powerApplied e l ||
    match e with
    | .call _ _ (.semTake .wake _) r => r == (0 : Int)
    | _ => true

abbrev WakesEarly (e : Ev) (l : Trace) : Prop := wakesEarly e l

/-- In such a wait a handler that wakes runs its last step after the drain
and before the wait ends. -/
def handledInTime (e : Ev) (l : Trace) : Bool :=
  !powerApplied e l || (way l).after.any Work.wakes

/-- `handledInTime` as a condition on the steps of a run. -/
abbrev HandledInTime (e : Ev) (l : Trace) : Prop := handledInTime e l

/-- The handler of the edge is somewhere on the way: it returned after the
drain, or before it, or has not returned. -/
def Located (d : Dev) (l : Trace) : Prop :=
  .vbusDetected ∈ (way l).after ∨ .vbusDetected ∈ (way l).before
    ∨ unfinished d l

/-- A sleep into which power was applied is behind its drain, with the
handler of the edge accounted for. -/
def EdgeLocated (e : Ev) (l : Trace) : Prop :=
  powerApplied e l = true → (way l).drained = true ∧ Located e.dev l

/-- The promise at every step. -/
def EarlyIffHandled (e : Ev) (l : Trace) : Prop :=
  (WakesEarly e l ↔ HandledInTime e l) ∧ EdgeLocated e l

/-- Where no power came into a sleep nothing is claimed. -/
theorem early_of_not_applied {e : Ev} {l : Trace}
    (h : powerApplied e l = false) : EarlyIffHandled e l :=
  ⟨by simp [WakesEarly, HandledInTime, wakesEarly, handledInTime, h],
    fun happlied => absurd (happlied.symm.trans h) (by decide)⟩

/-- Only at the wait itself is anything claimed. -/
private theorem not_applied {o : Op} (h : ∀ ms, o ≠ .semTake .wake ms)
    (s : Statics) (d : Dev) (r : o.Ret) (l : Trace) :
    powerApplied (.call s d o r : Ev) l = false := by
  cases o with
  | semTake t ms =>
      cases t with
      | wake => exact absurd rfl (h ms)
      | _ => rfl
  | _ => rfl

-- ============================================================ one event more

/-- What is neither a look, the drain nor a return leaves the way. -/
theorem way_cons {e : Ev} {l : Trace} (hlook : lookedAbsent e = false)
    (hdrain : drainsWake e = false) (hreturn : returning e l = none) :
    way (e :: l) = way l := by
  simp only [way, Way.next, hlook, hdrain, hreturn, Bool.false_eq_true,
    if_false]

/-- A call outside the wait leaves the way, or starts it anew. -/
theorem way_call {o : Op} (h : Off [.wake] o) (s : Statics) (d : Dev)
    (r : o.Ret) (l : Trace) :
    way (.call s d o r :: l) = way l ∨ way (.call s d o r :: l) = {} := by
  have hdrain : drainsWake (.call s d o r : Ev) = false := by
    cases o with
    | semReset t =>
        cases t with
        | wake => exact absurd h (by simp [Off])
        | _ => rfl
    | _ => rfl
  cases hlook : lookedAbsent (.call s d o r : Ev) with
  | false => exact .inl (way_cons hlook hdrain rfl)
  | true => exact .inr (by simp [way, Way.next, hlook])

/-- Only the loop's looks say anything about VBUS among the calls. -/
theorem raised_call {s : Statics} {d : Dev} {o : Op} {r : o.Ret} {l : Trace}
    (h : raised (.call s d o r :: l) = true) :
    raised l = true ∧ lookedAbsent (.call s d o r : Ev) = false := by
  cases hlook : lookedAbsent (.call s d o r : Ev) with
  | true => simp [raised, vbusWord, hlook] at h
  | false => exact ⟨by simpa [raised, vbusWord, hlook] using h, rfl⟩

/-- A step of a handler is a return exactly when nothing is left of it. -/
theorem way_step {s : Statics} {d : Dev} {l : Trace} {m : Micro}
    {ms : List Micro} {w : Work} (hbusy : d.busy = m :: ms)
    (hrun : atWork l = some w) :
    way (.env s d .workStep :: l)
      = if ms = [] then (way l).returned w else way l := by
  have hreturn : returning (.env s d .workStep) l
      = if ms = [] then some w else none := by
    cases ms <;> simp [returning, hbusy, hrun]
  have hnext : way (.env s d .workStep :: l)
      = match returning (.env s d .workStep) l with
        | none => way l
        | some w => (way l).returned w := rfl
  rw [hnext, hreturn]
  split <;> simp_all

-- ============================================================== assertions

/-- Holds throughout: the promise, whose steps are running, and where the
handler of an edge is. -/
structure Watched (w : Tracker) : Prop where
  kept : Always EarlyIffHandled w.log
  manned : Manned w.log w.dev
  located : raised w.log = true → Located w.dev w.log

/-- A returned handler is on the way's record. -/
private theorem mem_returned (v : Way) (w : Work) :
    w ∈ (v.returned w).after ∨ w ∈ (v.returned w).before := by
  unfold Way.returned
  split
  · exact .inl List.mem_cons_self
  · exact .inr List.mem_cons_self

/-- And what was on it stays. -/
private theorem returned_keeps {v : Way} (w : Work) {x : Work}
    (h : x ∈ v.after ∨ x ∈ v.before) :
    x ∈ (v.returned w).after ∨ x ∈ (v.returned w).before := by
  unfold Way.returned
  split
  · exact h.imp_left (List.mem_cons_of_mem w)
  · exact h.imp_right (List.mem_cons_of_mem w)

/-- A handler that waits its turn still waits after a move of another
kind. -/
private theorem Rests.queued {d d' : Dev} (h : Rests d d') {w : Work}
    (hm : w ∈ d.queue) : w ∈ d'.queue :=
  h.queue.symm ▸ hm

/-- A move that leaves the work queue alone keeps the account. -/
private theorem located_idle {d d' : Dev} {l : Trace} {s : Statics}
    {a : Move} (h : raised l = true → Located d l)
    (hword : vbusWord (.env s d a) = none ∨ vbusWord (.env s d a) = some false)
    (hreturn : returning (.env s d a) l = none)
    (hstart : workWord (.env s d a) = none)
    (hqueue : .vbusDetected ∈ d.queue → .vbusDetected ∈ d'.queue)
    (hbusy : d'.busy = d.busy) :
    raised (.env s d a :: l) = true → Located d' (.env s d a :: l) := by
  intro hr
  have hraised : raised l = true := by
    rcases hword with hword | hword
    · simpa only [raised, List.findSome?_cons, hword] using hr
    · simp [raised, hword] at hr
  have hway : way (.env s d a :: l) = way l := way_cons rfl rfl hreturn
  have hwork : atWork (.env s d a :: l) = atWork l := by
    simp only [atWork, List.findSome?_cons, hstart]
  unfold Located unfinished
  rw [hway, hwork, hbusy]
  exact (h hraised).imp_right fun h => h.imp_right fun h => h.imp_left hqueue

/-- A started handler has all of its steps left. -/
private theorem located_start {d : Dev} {l : Trace}
    (hcan : can .workStart d = true) (s : Statics) (h : Located d l) :
    Located (move cfg .workStart d) (.env s d .workStart :: l) := by
  have hidle : d.busy = [] ∧ d.queue ≠ [] := by simpa [can] using hcan
  obtain ⟨w, q, hq⟩ := List.exists_cons_of_ne_nil hidle.2
  have hway : way (.env s d .workStart :: l) = way l :=
    way_cons rfl rfl rfl
  unfold Located unfinished at h ⊢
  rw [hway]
  refine h.imp_right fun h => h.imp_right fun h => ?_
  rcases h with hmem | ⟨_, hne⟩
  · rw [hq] at hmem
    rcases List.mem_cons.mp hmem with rfl | hmem
    · refine .inr ⟨by simp [atWork, workWord, hq], ?_⟩
      simp [move, hq, Work.steps, eventCallback]
    · exact .inl (by simpa only [move, hq] using hmem)
  -- a handler that is running keeps the others waiting
  · exact absurd hidle.1 hne

/-- With its last step whichever handler ran is on record, and an earlier
step leaves it where it was. -/
private theorem located_step {d : Dev} {l : Trace}
    (hcan : can .workStep d = true) (hmanned : Manned l d) (s : Statics)
    (h : Located d l) :
    Located (move cfg .workStep d) (.env s d .workStep :: l) := by
  have hne : d.busy ≠ [] := by simpa [can] using hcan
  obtain ⟨m, ms, hb⟩ := List.exists_cons_of_ne_nil hne
  rcases hmanned with hnil | ⟨w, t, hrun, hsuf⟩
  · exact absurd hnil hne
  have hqueue : (move cfg .workStep d).queue = d.queue := by
    simp only [move, hb, Micro.run_queue]
  have hbusy : (move cfg .workStep d).busy = ms := by
    simp only [move, hb, Micro.run_busy]
  have hwork : atWork (.env s d .workStep :: l) = atWork l := rfl
  unfold Located unfinished at h ⊢
  rw [way_step hb hrun, hqueue, hbusy, hwork]
  by_cases hms : ms = []
  · rw [if_pos hms]
    have hon : (.vbusDetected ∈ (way l).after
        ∨ .vbusDetected ∈ (way l).before) ∨ .vbusDetected ∈ d.queue
        ∨ w = .vbusDetected := by
      rcases h with h | h | h | ⟨h, _⟩
      · exact .inl (.inl h)
      · exact .inl (.inr h)
      · exact .inr (.inl h)
      · exact .inr (.inr (Option.some.inj (hrun.symm.trans h)))
    rcases hon with h | h | rfl
    · exact (returned_keeps w h).imp_right .inl
    · exact .inr (.inr (.inl h))
    · exact (mem_returned (way l) .vbusDetected).imp_right .inl
  · rw [if_neg hms]
    exact h.imp_right fun h => h.imp_right fun h =>
      h.imp_right fun h => ⟨h.1, hms⟩

/-- An edge is queued as it comes, started in its turn, and on record once
its last step has run. -/
theorem located_move {d : Dev} {l : Trace} {a : Move}
    (hcan : can a d = true) (hmanned : Manned l d) (s : Statics)
    (h : raised l = true → Located d l) :
    raised (.env s d a :: l) = true →
      Located (move cfg a d) (.env s d a :: l) := by
  cases a with
  | vbusIn =>
      intro _
      -- the edge queues its handler
      exact .inr (.inr (.inl (by simp [move])))
  | vbusOut =>
      -- the other edge asks for nothing: no power came in
      exact located_idle h (.inr rfl) rfl rfl (fun hm => by simp [move, hm])
        rfl
  | jolt =>
      exact located_idle h (.inl rfl) rfl rfl (fun hm => by simp [move, hm])
        rfl
  | workStart => exact fun hr => located_start hcan s (h hr)
  | workStep => exact fun hr => located_step hcan hmanned s (h hr)
  | _ =>
      exact located_idle h (.inl rfl) rfl rfl
        (move_rests cfg rfl d).queued
        (move_rests cfg rfl d).busy

/-- Calls keep the account: a look that finds the supply absent asks for
none. -/
theorem located_call {d : Dev} {l : Trace} (s : Statics) (o : Op)
    (r : o.Ret) (h : raised l = true → Located d l) :
    raised (.call s d o r :: l) = true →
      Located (effect o r d) (.call s d o r :: l) := by
  intro hr
  obtain ⟨hraised, hlook⟩ := raised_call hr
  have hspares := effect_spares o r d
  have hrecord : (way (.call s d o r :: l)).after = (way l).after
      ∧ (way (.call s d o r :: l)).before = (way l).before := by
    have hnext : way (.call s d o r :: l)
        = if drainsWake (.call s d o r : Ev) then
            { way l with drained := true } else way l := by
      simp [way, Way.next, hlook, returning]
    rw [hnext]
    split <;> exact ⟨rfl, rfl⟩
  unfold Located unfinished
  rw [hrecord.1, hrecord.2, hspares.queue, hspares.busy]
  exact h hraised

/-- A call that keeps the promise keeps the handler accounted for, -/
theorem Watched.call {w : Tracker} (h : Watched w) {o : Op} {r : o.Ret}
    (hkept : EarlyIffHandled (.call w.st w.dev o r : Ev) w.log) :
    Watched (w.called (device cfg) o r) :=
  ⟨⟨hkept, h.kept⟩, manned_call h.manned w.st o r,
    located_call w.st o r h.located⟩

/-- and so does a move: no claim is made there. -/
theorem Watched.moved {w : Tracker} (h : Watched w) {a : Move}
    (hcan : can a w.dev = true) : Watched (w.moved (device cfg) a) :=
  ⟨⟨early_of_not_applied rfl, h.kept⟩, manned_move h.manned w.st a,
    located_move hcan h.manned w.st h.located⟩

/-- Off the wake semaphore all of it lasts. -/
theorem watched_frame (cfg : Config) :
    Frame (device cfg) Free Watched Watched (Off [.wake]) (Keep []) where
  stable := fun _ _ h hcan _ => h.moved hcan
  calls := fun w o r ho h _ _ => by
    refine h.call (early_of_not_applied (not_applied (fun ms he => ?_) ..))
    exact ho (by simp [he])
  writes := fun w f _ h => ⟨h.kept, h.manned, h.located⟩
  gives := fun _ h => h

/-- On the way into a sleep: into the last one of a cycle with the drain
still ahead. -/
def Undrained (site : SleepSite) (w : Tracker) : Prop :=
  Watched w ∧ (site = .endOfCycle → (way w.log).drained = false)

/-- Moves neither drain nor look. -/
private theorem drained_move (s : Statics) (d : Dev) (a : Move) (l : Trace) :
    (way (.env s d a :: l)).drained = (way l).drained := by
  have hnext : way (.env s d a :: l) = match returning (.env s d a) l with
      | none => way l
      | some w => (way l).returned w := rfl
  rw [hnext]
  split
  · rfl
  · unfold Way.returned
    split <;> rfl

/-- Nor do calls outside the wait drain. -/
private theorem undrained_call {o : Op} (ho : Off [.wake] o) (s : Statics)
    (d : Dev) (r : o.Ret) {l : Trace} (h : (way l).drained = false) :
    (way (.call s d o r :: l)).drained = false := by
  rcases way_call ho s d r l with hway | hway
  · rw [hway]
    exact h
  · rw [hway]

/-- Nothing but the wait drains, so up to there the drain stays ahead, -/
theorem undrained_frame (cfg : Config) (site : SleepSite) :
    Frame (device cfg) Free Watched (Undrained site) (Off [.wake])
      (Keep []) where
  stable := fun w a h hcan _ =>
    ⟨h.1.moved hcan, fun hs =>
      (drained_move w.st w.dev a w.log).trans (h.2 hs)⟩
  calls := fun w o r ho h hok hG =>
    ⟨(watched_frame cfg).calls w o r ho h.1 hok hG, fun hs =>
      undrained_call ho w.st w.dev r (h.2 hs)⟩
  writes := fun w f hf h => ⟨(watched_frame cfg).writes w f hf h.1, h.2⟩
  gives := fun _ h => h.1

/-- In a sleep, the last one of a cycle with its drain still ahead. -/
def AtDrain (w : Tracker) : Prop :=
  Watched w ∧ (inLastSleep w.log = true → (way w.log).drained = false)

/-- with the sleep read off the record as well. -/
theorem atDrain_frame (cfg : Config) :
    Frame (device cfg) Free Watched AtDrain (Off (.wake :: sleepCalls))
      (Keep []) where
  stable := fun w a h hcan _ =>
    ⟨h.1.moved hcan, fun hl =>
      (drained_move w.st w.dev a w.log).trans (h.2 hl)⟩
  calls := fun w o r ho h hok hG => by
    have hwake : Off [.wake] o := ho.mono (by simp)
    have hsleep : inLastSleep (.call w.st w.dev o r :: w.log)
        = inLastSleep w.log := inLastSleep_call (ho.mono (by simp)) ..
    exact ⟨(watched_frame cfg).calls w o r hwake h.1 hok hG, fun hl =>
      undrained_call hwake w.st w.dev r (h.2 (hsleep.symm.trans hl))⟩
  writes := fun w f hf h => ⟨(watched_frame cfg).writes w f hf h.1, h.2⟩
  gives := fun _ h => h.1

/-- A handler that wakes has returned since the drain. -/
def woken (l : Trace) : Bool := (way l).after.any Work.wakes

/-- In a sleep, the last one of a cycle past its drain: the semaphore is
available exactly when a handler that wakes has returned since. -/
def Waiting (w : Tracker) : Prop :=
  Watched w ∧ (inLastSleep w.log = true →
    (way w.log).drained = true ∧ w.dev.semWake = woken w.log)

/-- Past the drain a handler that wakes gives with its last step, and
nothing else on the device gives. -/
theorem sem_move {d : Dev} {l : Trace} {a : Move} (hcan : can a d = true)
    (hmanned : Manned l d) (s : Statics) (hdrained : (way l).drained = true)
    (h : d.semWake = woken l) :
    (move cfg a d).semWake = woken (.env s d a :: l) := by
  by_cases hstep : a = .workStep
  · subst hstep
    have hne : d.busy ≠ [] := by simpa [can] using hcan
    obtain ⟨m, ms, hb⟩ := List.exists_cons_of_ne_nil hne
    rcases hmanned with hnil | ⟨w, t, hrun, hsuf⟩
    · exact absurd hnil hne
    -- of all steps only the last one of such a handler gives
    have hgive : m = .give ↔ ms = [] ∧ w.wakes = true :=
      give_last (hb ▸ hsuf)
    have hsem : (move cfg .workStep d).semWake
        = (d.semWake || decide (m = .give)) := by
      simp only [move, hb]
      cases m <;> simp [Micro.run]
    have hreturned : (way l).returned w
        = { way l with after := w :: (way l).after } := by
      rw [Way.returned, if_pos hdrained]
    unfold woken at h ⊢
    rw [hsem, h, way_step hb hrun, hreturned]
    by_cases hms : ms = []
    · have hlast : decide (m = .give) = w.wakes := by
        simp [hgive, hms]
      rw [if_pos hms, List.any_cons, hlast, Bool.or_comm]
    · have hlast : decide (m = .give) = false :=
        decide_eq_false fun hm => hms (hgive.mp hm).1
      rw [if_neg hms, hlast, Bool.or_false]
  -- the other moves neither give nor end a handler
  · have hway : way (.env s d a :: l) = way l := by
      refine way_cons rfl rfl ?_
      cases a with
      | workStep => exact absurd rfl hstep
      | _ => rfl
    unfold woken at h ⊢
    rw [move_semWake cfg hcan hstep, h, hway]

/-- While main waits, the semaphore and the record move together. -/
theorem waiting_stable (cfg : Config) :
    Stable (device cfg) Free Waiting := fun w a h hcan _ =>
  ⟨h.1.moved hcan, fun hl =>
    ⟨(drained_move w.st w.dev a w.log).trans (h.2 hl).1,
      sem_move hcan h.1.manned w.st (h.2 hl).1 (h.2 hl).2⟩⟩

-- =============================================================== the sleep

/-- Nothing is on record as returned after a drain that is still ahead. -/
theorem after_undrained {l : Trace} (h : (way l).drained = false) :
    (way l).after = [] := by
  induction l with
  | nil => rfl
  | cons e l ih =>
      unfold way Way.next at h ⊢
      split
      · rfl
      · rw [if_neg ‹_›] at h
        split
        · rw [if_pos ‹_›] at h
          cases h
        · rw [if_neg ‹_›] at h
          cases hreturn : returning e l with
          | none =>
              rw [hreturn] at h
              exact ih h
          | some w =>
              rw [hreturn] at h
              cases hd : (way l).drained with
              | true => simp [Way.returned, hd] at h
              | false => simpa [Way.returned, hd] using ih hd

/-- The drain opens the wait: nothing has returned since, and the semaphore
is empty. -/
theorem drain_opens :
    Triple (device cfg) Free Watched AtDrain (call (.semReset .wake))
      fun _ => Waiting := by
  refine Triple.op (atDrain_frame cfg).stable fun w r h _ _ => ?_
  have hwatched : Watched (w.called (device cfg) (.semReset .wake) r) :=
    h.1.call (early_of_not_applied rfl)
  refine ⟨hwatched, hwatched, fun hl => ⟨rfl, ?_⟩⟩
  have hafter : (way w.log).after = [] := after_undrained (h.2 hl)
  show false = ({ way w.log with drained := true } : Way).after.any Work.wakes
  simp [hafter]

/-- The wait ends early exactly when a handler that wakes has returned. -/
theorem wait_ends (ms : Nat) :
    Triple (device cfg) Free Watched Waiting (call (.semTake .wake ms))
      fun _ => Watched := by
  refine Triple.op (waiting_stable cfg) fun w (r : Int) h hok _ => ?_
  have hanswer : r = 0 ↔ w.dev.semWake = true := take_answer hok
  have hpromise :
      EarlyIffHandled (.call w.st w.dev (.semTake .wake ms) r : Ev) w.log := by
    cases happlied : inLastSleep w.log && raised w.log with
    | false => exact early_of_not_applied happlied
    | true =>
        obtain ⟨hl, hr⟩ := Bool.and_eq_true_iff.mp happlied
        obtain ⟨hdrained, hsem⟩ := h.2 hl
        refine ⟨?_, fun _ => ⟨hdrained, h.1.located hr⟩⟩
        have hearly : (r == 0) = woken w.log := by
          rw [← hsem, Bool.eq_iff_iff, beq_iff_eq]
          exact hanswer
        simp only [WakesEarly, HandledInTime, wakesEarly, handledInTime,
          hearly, woken]
  have hwatched : Watched (w.called (device cfg) (.semTake .wake ms) r) :=
    h.1.call hpromise
  exact ⟨hwatched, hwatched⟩

/-- `wake_wait` from the drain ahead. -/
theorem wakeWait_watched (seconds : Nat) :
    Triple (device cfg) Free Watched AtDrain (wakeWait seconds)
      fun _ => Watched := by
  have S : Frame (device cfg) Free Watched Watched _ _ := watched_frame cfg
  have R : Frame (device cfg) Free Watched AtDrain _ _ := atDrain_frame cfg
  have hclear : Triple (device cfg) Free Watched AtDrain
      (call (.pendingSet .timer)) fun _ => AtDrain := by
    refine Triple.op R.stable fun w r h _ _ => ?_
    have hwatched : Watched (w.called (device cfg) (.pendingSet .timer) r) :=
      h.1.call (early_of_not_applied rfl)
    exact ⟨hwatched, hwatched, h.2⟩
  have hread : Triple (device cfg) Free Watched Watched (call .pendingGet)
      fun _ => Watched := by
    refine Triple.op S.stable fun w r h _ _ => ?_
    have hwatched : Watched (w.called (device cfg) .pendingGet r) :=
      h.call (early_of_not_applied rfl)
    exact ⟨hwatched, hwatched⟩
  refine triple_scope (enter_keeps R (by simp)) (R := fun _ => Watched) ?_
    fun r => leave_keeps S (by simp)
  refine hclear.bind fun _ => drain_opens.bind fun _ =>
    (wait_ends (seconds * 1000)).bind fun r => ?_
  apply Triple.ite
  · intro _
    exact Triple.ret fun _ h => h
  · intro _
    exact hread

/-- `battery_sleep`, entered with the drain ahead. -/
theorem batterySleep_watched (site : SleepSite) :
    Triple (device cfg) Free Watched (Undrained site)
      (batterySleep cfg site) fun _ => Watched := by
  have S : Frame (device cfg) Free Watched Watched _ _ := watched_frame cfg
  have R : Frame (device cfg) Free Watched AtDrain _ _ := atDrain_frame cfg
  have henter : Triple (device cfg) Free Watched (Undrained site)
      (call (.enter (.batterySleep site))) fun _ => AtDrain := by
    refine Triple.op (undrained_frame cfg site).stable fun w r h _ _ => ?_
    have hwatched : Watched
        (w.called (device cfg) (.enter (.batterySleep site)) r) :=
      h.1.call (early_of_not_applied rfl)
    refine ⟨hwatched, hwatched, fun hl => ?_⟩
    have hsite : (some site == some SleepSite.endOfCycle) = true := hl
    exact h.2 (by simpa using hsite)
  have hwait : Triple (device cfg) Free Watched AtDrain (do
      watchdogPhase .sleep
      wakeWait cfg.sleepSeconds) fun _ => Watched :=
    (part R (watchdogPhase_foot _) (by simp) (by simp)).bind fun _ =>
      wakeWait_watched _
  -- nothing drains before the wait
  refine triple_scope henter (R := fun _ => Watched) ?_
    fun r => leave_keeps S (by simp)
  refine Triple.get fun s => Triple.pre (P := AtDrain) ?_ fun w h => h.1
  refine (part R (watchdogPhase_foot _) (by simp) (by simp)).bind fun _ =>
    (part R (statusLedSleep_foot cfg) (by simp) (by simp)).bind fun _ =>
    (part R (watchdogPhase_foot _) (by simp) (by simp)).bind fun _ =>
    (part R (motionSetArmed_foot cfg _) (by simp) (by simp)).bind fun _ =>
    Triple.ite (fun _ => ?_) fun _ => hwait
  refine (part R (g := []) (v := [.batterySleeps])
    (by simp [Var.forall]) (by simp) (by simp)).bind fun _ => ?_
  exact hwait

-- ======================================================== the frequent loop

/-- A look that finds the supply absent starts the way anew. -/
theorem look_restarts {site : VbusSite}
    (hsite : site = .ifCond ∨ site = .whileCond) :
    Triple (device cfg) Free Watched Watched (powerVbusPresent site)
      fun b w => if b then Watched w else Undrained .endOfCycle w := by
  have S : Frame (device cfg) Free Watched Watched _ _ := watched_frame cfg
  refine triple_scope (enter_keeps S (by simp)) (R := fun _ => Watched) ?_
    fun b => ?_
  · have hread : Triple (device cfg) Free Watched Watched readVbusPresent
        fun _ => Watched := part S (g := [.plain]) (v := [])
      (by simp [readVbusPresent]) (by simp) (by simp)
    exact hread.bind fun _ => (plain_keeps S (by rfl) (by simp)).bind
      fun _ => plain_keeps S (by rfl) (by simp)
  · refine Triple.op S.stable fun w r h hok hG => ?_
    have hwatched := S.calls w (.leave (.powerVbusPresent site) (Code.code b))
      r (by simp [Off]) h hok hG
    refine ⟨hwatched, ?_⟩
    cases b with
    | true => exact hwatched
    | false =>
        refine ⟨hwatched, fun _ => ?_⟩
        rcases hsite with rfl | rfl <;> rfl

/-- The frequent section is left over a look that found the supply
absent. -/
theorem keepReporting_watched {site : VbusSite}
    (hsite : site = .ifCond ∨ site = .whileCond) (motionCycle : Bool) :
    Triple (device cfg) Free Watched Watched
      (keepReporting cfg site motionCycle)
      fun b w => if b then Watched w else Undrained .endOfCycle w := by
  refine (look_restarts hsite).bind fun present => ?_
  cases present with
  | true => exact Triple.ret fun _ h => h
  | false =>
      refine (part (undrained_frame cfg .endOfCycle) (surgeActive_foot cfg _)
        (by simp) (by simp)).post fun b w h => ?_
      split
      · exact h.1
      · exact h

-- ================================================================= the law

/-- The walk: `Watched` while a cycle runs, and the drain ahead from the
end of its frequent loop to its sleep. -/
theorem wakeup_walk (cfg : Config) :
    Walk cfg Free Watched (closingAt Watched (fun _ => Watched)
      (fun _ => Watched) Undrained) := by
  have S : Frame (device cfg) Free Watched Watched (Off closingGroups)
      (Keep []) :=
    (watched_frame cfg).mono (fun _ h => h.mono (by simp)) fun _ _ h => h
  have U : ∀ site, Frame (device cfg) Free Watched (Undrained site)
      (Off closingGroups) (Keep []) := fun site =>
    (undrained_frame cfg site).mono (fun _ h => h.mono (by simp))
      fun _ _ h => h
  apply walk_closing S (fun _ => S) (fun _ => S) U
  · exact fun _ h => h
  · exact fun wr => part (watched_frame cfg) (topOfCycle_foot wr) (by simp)
      (by simp)
  · exact fun _ site hsite w h => ⟨h, fun hlast => absurd hlast hsite⟩
  · exact fun wr site hsite => keepReporting_watched hsite (wr == .motion)
  · exact batterySleep_watched

/-- A sleep at the end of a cycle into which power was applied ends early
exactly when the handler of a VBUS edge or of a jolt runs its last step
after the drain and before the end of the wait. The handler of the edge
itself has by then returned since the drain, or before it, or has not
returned. -/
theorem wakes_early_iff_handled {n fuel : Nat} {w : Tracker}
    (hw : Booted cfg w) {c : P Int × Tracker}
    (hr : Reach (device cfg) (main cfg n fuel) w c) :
    Always (fun e l => (WakesEarly e l ↔ HandledInTime e l)
      ∧ EdgeLocated e l) c.2.log := by
  refine ((wakeup_walk cfg).reach (J := Watched) ?_ hr
    (always_free _)).kept
  refine ⟨?_, .inl hw.busy, ?_⟩
  · rw [hw.log]
    trivial
  · rw [hw.log]
    nofun

/-- Power applied on the way into the sleep, and a handler that runs
during it. -/
theorem wakes_early_plugged :
    ¬Always (fun e l => powerApplied e l = false)
      (playMain fixless (plugged false) 1 0 300).2.log ∧
    Always (fun e l => (WakesEarly e l ↔ HandledInTime e l)
      ∧ EdgeLocated e l) (playMain fixless (plugged false) 1 0 300).2.log :=
  ⟨by decide +kernel, wakes_early_iff_handled (start_booted fixless)
    (playMain_reach fixless (plugged false) 1 0 300)⟩

/-- Power applied on the way into the sleep, a handler that runs before
the drain, and a sleep to the end. -/
theorem plug_discarded :
    ∃ w c, Booted fixless w ∧ Reach (device fixless) (main fixless 1 0) w c ∧
      ¬Always WakesEarly c.2.log :=
  ⟨start fixless, _, start_booted fixless,
    playMain_reach fixless (plugged true) 1 0 300, by decide +kernel⟩

end GpsTracker
