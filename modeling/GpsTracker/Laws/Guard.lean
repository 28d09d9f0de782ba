/-
The guard feeds by the clock (watchdog.c, watchdog.h).

`watchdog_guard_start` counts its feeds before the timer runs: one now,
and one at every expiry until the count is spent. The count is the budget
divided by the period and rounded up, so a budget that is no multiple of
the period is overrun by the rest of one, and in the last 29 values of an
unsigned int the rounding wraps to no feed at all.

# The timer

A kernel timer is a matter of the log: `guardDue` is when it expires
next, and a run is `Punctual` if every expiry happens then and the clock
never passes one over.
-/
import GpsTracker.Run.Script

namespace GpsTracker

open Proc

variable {cfg : Config}

-- ================================================================== the timer

/-- `K_SECONDS(WDT_GUARD_PERIOD_S)`. -/
def guardPeriodMs : Nat := WDT_GUARD_PERIOD_S * 1000

/-- When the guard timer expires next; an expiry that finds no feed left
stops it. -/
def guardDue : Trace → Option Nat
  | [] => none
  | .call _ d (.guardTimerSet run) _ :: _ =>
      if run then some (d.now + guardPeriodMs) else none
  | .env _ d .guardTick :: l =>
      if d.guardFeedsLeft = 0 then none
      else (guardDue l).map fun due => due + guardPeriodMs
  | _ :: l => guardDue l

/-- The guard timer expires when it is due. -/
def Punctual : Ev → Trace → Prop
  | .env _ d .guardTick, l => guardDue l = some d.now
  | .env _ d (.tick ms), l => ∀ due, guardDue l = some due → d.now + ms ≤ due
  | _, _ => True

/-- When an event feeds the watchdog. -/
def feedAt : Ev → Option Nat
  | .call _ d .wdtFeed _ => some d.now
  | .env s d .guardTick =>
      if 0 ≤ s.wdtChannel ∧ d.guardFeedsLeft ≠ 0 then some d.now else none
  | _ => none

/-- When the watchdog was fed, newest first. -/
def fed (l : Trace) : List Nat := l.filterMap feedAt

-- ================================================================== the moves

/-- The time a move takes. -/
def duration : Move → Nat
  | .tick ms => ms
  | _ => 0

theorem move_now (a : Move) (d : Dev) :
    (move cfg a d).now = d.now + duration a := by
  cases a with
  | workStart =>
      simp only [move]
      split <;> rfl
  | workStep =>
      simp only [move]
      split
      · rfl
      next m _ _ => cases m <;> rfl
  | guardTick =>
      simp only [move]
      split <;> rfl
  | give s => cases s <;> rfl
  | _ => rfl

/-- Every move but an expiry leaves the guard alone. -/
theorem move_guard {a : Move} (h : a ≠ .guardTick) (d : Dev) :
    (move cfg a d).guardArmed = d.guardArmed ∧
      (move cfg a d).guardFeedsLeft = d.guardFeedsLeft := by
  cases a with
  | guardTick => exact absurd rfl h
  | workStart =>
      simp only [move]
      split <;> exact ⟨rfl, rfl⟩
  | workStep =>
      simp only [move]
      split
      · exact ⟨rfl, rfl⟩
      next m _ _ => cases m <;> exact ⟨rfl, rfl⟩
  | give s => cases s <;> exact ⟨rfl, rfl⟩
  | _ => exact ⟨rfl, rfl⟩

/-- Nor does it feed, or change when the timer is due. -/
theorem move_silent {a : Move} (h : a ≠ .guardTick) (s : Statics) (d : Dev)
    (l : Trace) :
    feedAt (.env s d a) = none ∧ guardDue (.env s d a :: l) = guardDue l := by
  cases a with
  | guardTick => exact absurd rfl h
  | _ => exact ⟨rfl, rfl⟩

-- ================================================================== the start

/-- On the way through a start with `n` feeds to come: `fs` is what it has
fed, `set` whether the count is there. -/
structure Starting (l₀ : Trace) (n : Nat) (set : Bool) (fs : List Nat)
    (w : Tracker) : Prop where
  since : ∃ l, w.log = l ++ l₀ ∧ fed l = fs
  running : 0 ≤ w.st.wdtChannel
  idle : w.dev.guardArmed = false
  left : set = true → w.dev.guardFeedsLeft = n

/-- `X`, unless time has passed since `t`. -/
def Instant (t : Nat) (X : Tracker → Prop) (w : Tracker) : Prop :=
  t ≤ w.dev.now ∧ (w.dev.now = t → X w)

theorem Starting.moved {l₀ : Trace} {n : Nat} {set : Bool} {fs : List Nat}
    {w : Tracker} (h : Starting l₀ n set fs w) {a : Move}
    (hcan : can a w.dev = true) :
    Starting l₀ n set fs (w.moved (device cfg) a) := by
  have hne : a ≠ .guardTick := by
    rintro rfl
    have harmed : w.dev.guardArmed = true := hcan
    rw [h.idle] at harmed
    cases harmed
  obtain ⟨l, hl, hfs⟩ := h.since
  obtain ⟨harm, hleft⟩ := @move_guard cfg _ hne w.dev
  obtain ⟨hfeed, -⟩ := move_silent hne w.st w.dev w.log
  refine ⟨⟨.env w.st w.dev a :: l, ?_, ?_⟩, h.running, harm.trans h.idle,
    fun hset => hleft.trans (h.left hset)⟩
  · show _ :: w.log = _
    rw [hl]
    rfl
  · unfold fed
    rw [List.filterMap_cons, hfeed]
    exact hfs

theorem instant_stable {t : Nat} {l₀ : Trace} {n : Nat} {set : Bool}
    {fs : List Nat} :
    Stable (device cfg) Free (Instant t (Starting l₀ n set fs)) := by
  intro w a h hcan _
  have hnow : w.dev.now ≤ (w.moved (device cfg) a).dev.now :=
    (move_drifts cfg a w.dev).now
  refine ⟨Nat.le_trans h.1 hnow, fun ht => ?_⟩
  exact (h.2 (by have := h.1; omega)).moved hcan

/-- The guard has fed at the start and at `k` expiries. -/
structure Guarding (t n : Nat) (l₀ : Trace) (k : Nat) (w : Tracker) :
    Prop where
  since : ∃ l, w.log = l ++ l₀ ∧
    ∀ τ, τ ∈ fed l ↔ ∃ i ≤ k, τ = t + guardPeriodMs * i
  running : 0 ≤ w.st.wdtChannel
  due : guardDue w.log = if w.dev.guardArmed then
    some (t + guardPeriodMs * (k + 1)) else none
  left : w.dev.guardFeedsLeft + k = n
  spent : w.dev.guardArmed = false → k = n
  early : w.dev.guardArmed = true →
    w.dev.now ≤ t + guardPeriodMs * (k + 1)
  late : t + guardPeriodMs * k ≤ w.dev.now

/-- `watchdog_guard_start` feeds once, then leaves the rest to the
timer. -/
theorem guardStart_guards (t : Nat) (l₀ : Trace) (budgetS : Nat) :
    Triple (device cfg) Free (fun _ => True)
      (Instant t (Starting l₀ 0 false []))
      (watchdogGuardStart budgetS) fun _ w => w.dev.now = t →
        Guarding t (divRoundUp budgetS WDT_GUARD_PERIOD_S) l₀ 0 w := by
  generalize hn : divRoundUp budgetS WDT_GUARD_PERIOD_S = n
  -- while no time has passed since the start, the three calls are followed
  -- one by one: the count,
  have hset : Triple (device cfg) Free (fun _ => True)
      (Instant t (Starting l₀ 0 false [])) (call (.guardFeedsLeftSet n))
      fun _ => Instant t (Starting l₀ n true []) := by
    refine Triple.op instant_stable fun w r h _ _ => ⟨trivial, h.1, fun ht => ?_⟩
    obtain ⟨⟨l, hl, hfs⟩, hrun, hidle, -⟩ := h.2 ht
    refine ⟨⟨.call w.st w.dev (.guardFeedsLeftSet n) r :: l, ?_, hfs⟩, hrun,
      hidle, fun _ => rfl⟩
    show _ :: w.log = _
    rw [hl]
    rfl
  -- the first feed,
  have hfeed : Triple (device cfg) Free (fun _ => True)
      (Instant t (Starting l₀ n true [])) watchdogFeed
      fun _ => Instant t (Starting l₀ n true [t]) := by
    refine Triple.get fun s => Triple.ite (fun hs => ?_) fun hs => ?_
    · refine Triple.op (instant_stable.and (Stable.static fun s' => s' = s))
        fun w r h _ _ => ⟨trivial, h.1.1, fun ht => ?_⟩
      obtain ⟨⟨l, hl, hfs⟩, hrun, hidle, hleft⟩ := h.1.2 ht
      refine ⟨⟨.call w.st w.dev .wdtFeed r :: l, ?_, ?_⟩, hrun, hidle, hleft⟩
      · show _ :: w.log = _
        rw [hl]
        rfl
      · show w.dev.now :: fed l = _
        have ht' : w.dev.now = t := ht
        rw [hfs, ht']
    -- no channel: excluded, since the watchdog runs
    · refine Triple.ret fun w h => ⟨h.1.1, fun ht => ?_⟩
      have hrun := (h.1.2 ht).running
      rw [h.2] at hrun
      exact absurd hrun hs
  rw [watchdogGuardStart, hn]
  refine hset.bind fun _ => hfeed.bind fun _ => ?_
  -- and the timer, from where `Guarding` holds with no period over
  refine Triple.op instant_stable fun w r h _ _ => ⟨trivial, fun ht => ?_⟩
  have ht' : w.dev.now = t := ht
  obtain ⟨⟨l, hl, hfs⟩, hrun, hidle, hleft⟩ := h.2 ht'
  constructor
  · refine ⟨.call w.st w.dev (.guardTimerSet true) r :: l, ?_, fun τ => ?_⟩
    · show _ :: w.log = _
      rw [hl]
      rfl
    · show τ ∈ fed l ↔ _
      rw [hfs, List.mem_singleton]
      constructor
      · intro hτ
        exact ⟨0, Nat.le_refl _, hτ⟩
      · rintro ⟨i, hi, hτ⟩
        rw [hτ, Nat.le_zero.mp hi]
        rfl
  · exact hrun
  · show some (w.dev.now + guardPeriodMs) = some _
    rw [ht', Nat.zero_add, Nat.mul_one]
  · exact hleft rfl
  · intro hoff
    cases hoff
  · intro _
    show w.dev.now ≤ _
    omega
  · show _ ≤ w.dev.now
    omega

-- ================================================================= the feeding

/-- An expiry that finds the count spent stops the timer. -/
theorem Guarding.stops {t n k : Nat} {l₀ : Trace} {w : Tracker}
    (h : Guarding t n l₀ k w) (hleft : w.dev.guardFeedsLeft = 0) :
    Guarding t n l₀ k (w.moved (device cfg) .guardTick) := by
  obtain ⟨l, hl, hfs⟩ := h.since
  have hmove : (w.moved (device cfg) .guardTick).dev
      = { w.dev with guardArmed := false } := by
    show move cfg .guardTick w.dev = _
    simp only [move, if_pos hleft]
  have hsilent : feedAt (.env w.st w.dev .guardTick) = none := by
    simp [feedAt, hleft]
  constructor
  · refine ⟨.env w.st w.dev .guardTick :: l, ?_, fun τ => ?_⟩
    · show _ :: w.log = _
      rw [hl]
      rfl
    · rw [fed, List.filterMap_cons, hsilent]
      exact hfs τ
  · exact h.running
  · rw [hmove]
    show guardDue (.env w.st w.dev .guardTick :: w.log) = none
    rw [guardDue, if_pos hleft]
  · rw [hmove]
    exact h.left
  · intro _
    have := h.left
    omega
  · rw [hmove]
    intro hon
    cases hon
  · rw [hmove]
    exact h.late

/-- One that does not, feeds. -/
theorem Guarding.feeds {t n k : Nat} {l₀ : Trace} {w : Tracker}
    (h : Guarding t n l₀ k w) (hleft : w.dev.guardFeedsLeft ≠ 0)
    (harmed : w.dev.guardArmed = true)
    (hp : guardDue w.log = some w.dev.now) :
    Guarding t n l₀ (k + 1) (w.moved (device cfg) .guardTick) := by
  obtain ⟨l, hl, hfs⟩ := h.since
  have hdue := h.due
  rw [if_pos harmed] at hdue
  have hnow : w.dev.now = t + guardPeriodMs * (k + 1) :=
    (Option.some.inj (hdue.symm.trans hp)).symm
  have hmove : (w.moved (device cfg) .guardTick).dev
      = { w.dev with guardFeedsLeft := w.dev.guardFeedsLeft - 1 } := by
    show move cfg .guardTick w.dev = _
    simp only [move, if_neg hleft]
  have hfeed : feedAt (.env w.st w.dev .guardTick) = some w.dev.now :=
    if_pos ⟨h.running, hleft⟩
  -- a feed at the end of period `k + 1` is the one the claim has there
  constructor
  · refine ⟨.env w.st w.dev .guardTick :: l, ?_, fun τ => ?_⟩
    · show _ :: w.log = _
      rw [hl]
      rfl
    · rw [fed, List.filterMap_cons, hfeed, List.mem_cons]
      constructor
      · rintro (rfl | hτ)
        · exact ⟨k + 1, Nat.le_refl _, hnow⟩
        · obtain ⟨i, hi, hτ⟩ := (hfs τ).mp hτ
          exact ⟨i, Nat.le_succ_of_le hi, hτ⟩
      · rintro ⟨i, hi, hτ⟩
        rcases Nat.le_succ_iff.mp hi with hi | rfl
        · exact .inr ((hfs τ).mpr ⟨i, hi, hτ⟩)
        · exact .inl (hτ.trans hnow.symm)
  · exact h.running
  · rw [hmove, if_pos harmed]
    show guardDue (.env w.st w.dev .guardTick :: w.log) = _
    rw [guardDue, if_neg hleft, hdue, Nat.mul_succ guardPeriodMs (k + 1),
      ← Nat.add_assoc]
    rfl
  · rw [hmove]
    have := h.left
    show w.dev.guardFeedsLeft - 1 + (k + 1) = n
    omega
  · rw [hmove]
    intro hoff
    cases harmed.symm.trans hoff
  · rw [hmove]
    intro _
    show w.dev.now ≤ _
    rw [hnow]
    exact Nat.add_le_add_left (Nat.mul_le_mul_left _ (Nat.le_succ _)) t
  · rw [hmove]
    exact Nat.le_of_eq hnow.symm

/-- Any other move keeps the count. -/
theorem Guarding.keeps {t n k : Nat} {l₀ : Trace} {w : Tracker}
    (h : Guarding t n l₀ k w) {a : Move} (ha : a ≠ .guardTick)
    (hp : Punctual (.env w.st w.dev a) w.log) :
    Guarding t n l₀ k (w.moved (device cfg) a) := by
  obtain ⟨l, hl, hfs⟩ := h.since
  obtain ⟨hfeed, hdue⟩ := move_silent ha w.st w.dev w.log
  have harm : (w.moved (device cfg) a).dev.guardArmed = w.dev.guardArmed :=
    (move_guard ha w.dev).1
  have hleft : (w.moved (device cfg) a).dev.guardFeedsLeft
      = w.dev.guardFeedsLeft := (move_guard ha w.dev).2
  constructor
  · refine ⟨.env w.st w.dev a :: l, ?_, fun τ => ?_⟩
    · show _ :: w.log = _
      rw [hl]
      rfl
    · rw [fed, List.filterMap_cons, hfeed]
      exact hfs τ
  · exact h.running
  · rw [harm]
    exact hdue.trans h.due
  · rw [hleft]
    exact h.left
  · rw [harm]
    exact h.spent
  · rw [harm]
    intro harmed
    have hd := h.due
    rw [if_pos harmed] at hd
    show (move cfg a w.dev).now ≤ _
    rw [move_now]
    -- time stops short of the due expiry, and nothing else moves the clock
    cases a with
    | tick ms => exact hp _ hd
    | guardTick => exact absurd rfl ha
    | _ => exact h.early harmed
  · exact Nat.le_trans h.late (move_drifts cfg a w.dev).now

/-- One move of the device. -/
theorem Guarding.moved {t n k : Nat} {l₀ : Trace} {w : Tracker}
    (h : Guarding t n l₀ k w) {a : Move} (hcan : can a w.dev = true)
    (hp : Punctual (.env w.st w.dev a) w.log) :
    ∃ k', Guarding t n l₀ k' (w.moved (device cfg) a) := by
  by_cases ha : a = .guardTick
  · subst ha
    by_cases hleft : w.dev.guardFeedsLeft = 0
    · exact ⟨k, h.stops hleft⟩
    · exact ⟨k + 1, h.feeds hleft hcan hp⟩
  · exact ⟨k, h.keeps ha hp⟩

/-- However the device goes on, with no further step of the thread. -/
theorem Guarding.run {t n k : Nat} {l₀ : Trace} {w w' : Tracker}
    (h : Guarding t n l₀ k w) (hm : Moves (device cfg) w w')
    (hG : Always Punctual w'.log) : ∃ k', Guarding t n l₀ k' w' := by
  induction hm with
  | refl => exact ⟨k, h⟩
  | step a _ hcan ih =>
      obtain ⟨k', h'⟩ := ih hG.2
      exact h'.moved hcan hG.1

/-- What was fed before now: every expiry that the count allows. -/
theorem Guarding.fed_iff {t n k : Nat} {l₀ l : Trace} {w : Tracker}
    (h : Guarding t n l₀ k w) (hl : w.log = l ++ l₀) {τ : Nat}
    (hτ : τ < w.dev.now) :
    τ ∈ fed l ↔ ∃ i ≤ n, τ = t + guardPeriodMs * i := by
  obtain ⟨l', hl', hfs⟩ := h.since
  have hsame : l = l' := List.append_cancel_right (hl.symm.trans hl')
  rw [hsame, hfs]
  have hleft := h.left
  constructor
  · rintro ⟨i, hi, hτi⟩
    exact ⟨i, by omega, hτi⟩
  · rintro ⟨i, hi, hτi⟩
    refine ⟨i, ?_, hτi⟩
    cases harm : w.dev.guardArmed with
    | false => rwa [h.spent harm]
    | true =>
        have hnow := h.early harm
        have hlt : guardPeriodMs * i < guardPeriodMs * (k + 1) := by omega
        exact Nat.le_of_lt_succ (Nat.lt_of_mul_lt_mul_left hlt)

/-- Time can always go on: the timer expires where it is due. -/
theorem Guarding.ages {t n k : Nat} {l₀ : Trace} {w : Tracker}
    (h : Guarding t n l₀ k w) (hw : Always Punctual w.log) (T : Nat) :
    ∃ w', Moves (device cfg) w w' ∧ Always Punctual w'.log ∧
      T ≤ w'.dev.now := by
  -- a millisecond at a time
  induction T with
  | zero => exact ⟨w, .refl w, hw, Nat.zero_le _⟩
  | succ T ih =>
      obtain ⟨w₁, hm, hG, hT⟩ := ih
      obtain ⟨k₁, h₁⟩ := h.run hm hG
      by_cases hfree : ∀ due, guardDue w₁.log = some due → w₁.dev.now + 1 ≤ due
      · refine ⟨w₁.moved (device cfg) (.tick 1), .step (.tick 1) hm rfl,
          ⟨hfree, hG⟩, Nat.succ_le_succ hT⟩
      · -- the timer is due now: let it expire first
        obtain ⟨harmed, hdue⟩ : w₁.dev.guardArmed = true ∧
            guardDue w₁.log = some w₁.dev.now := by
          cases harm : w₁.dev.guardArmed with
          | false =>
              refine absurd (fun due hd => ?_) hfree
              rw [h₁.due, harm] at hd
              cases hd
          | true =>
              have hdue := h₁.due
              rw [if_pos harm] at hdue
              refine ⟨rfl, hdue.trans (congrArg some ?_)⟩
              refine Nat.le_antisymm (Nat.not_lt.mp fun hlt => ?_)
                (h₁.early harm)
              refine hfree fun due hd => ?_
              rw [hdue] at hd
              cases hd
              exact hlt
        have hm₂ : Moves (device cfg) w (w₁.moved (device cfg) .guardTick) :=
          Moves.step Move.guardTick hm harmed
        have hnow₂ : (w₁.moved (device cfg) .guardTick).dev.now = w₁.dev.now :=
          @move_now cfg .guardTick w₁.dev
        refine ⟨(w₁.moved (device cfg) .guardTick).moved (device cfg) (.tick 1),
          .step (.tick 1) hm₂ rfl, ⟨fun due hd => ?_, hdue, hG⟩, ?_⟩
        · have hnext : guardDue (.env w₁.st w₁.dev .guardTick :: w₁.log)
              = some due := hd
          rw [guardDue, hdue] at hnext
          split at hnext
          · cases hnext
          · have hlater : w₁.dev.now + guardPeriodMs = due :=
              Option.some.inj hnext
            show (w₁.moved (device cfg) .guardTick).dev.now + 1 ≤ due
            rw [hnow₂, ← hlater]
            exact Nat.add_le_add_left (by decide) _
        · show T + 1 ≤ (w₁.moved (device cfg) .guardTick).dev.now + 1
          omega

/-- A start that takes no time. -/
theorem guardStart_runs {w : Tracker} (hrun : 0 ≤ w.st.wdtChannel)
    (budgetS : Nat) :
    ∃ w₁, Reach (device cfg) (watchdogGuardStart budgetS) w (.ret (), w₁) ∧
      w₁.dev.now = w.dev.now ∧
      (Always Punctual w.log → Always Punctual w₁.log) := by
  let n := divRoundUp budgetS WDT_GUARD_PERIOD_S
  let wₙ : Tracker := w.called (device cfg) (.guardFeedsLeftSet n) ()
  let wf : Tracker := wₙ.called (device cfg) .wdtFeed ()
  let timer : P Unit := .call (.guardTimerSet true) .ret
  let rest : P Unit := .read fun s => Prog.bind
    (if s.wdtChannel ≥ 0 then call .wdtFeed else pure ()) fun _ => timer
  have hset : Step (device cfg) (.call (.guardFeedsLeftSet n) fun _ => rest, w)
      (rest, wₙ) :=
    Step.call (o := Op.guardFeedsLeftSet n) (k := fun _ => rest) () (.refl w) rfl
  have hread : Step (device cfg) (rest, wₙ)
      (.call .wdtFeed fun _ => timer, wₙ) := by
    have hs : Step (device cfg) (rest, wₙ) _ := .read
    rwa [if_pos (show wₙ.st.wdtChannel ≥ 0 from hrun)] at hs
  have hfeed : Step (device cfg) (.call .wdtFeed fun _ => timer, wₙ)
      (timer, wf) :=
    Step.call (o := Op.wdtFeed) (k := fun _ => timer) () (.refl wₙ) rfl
  have htimer : Step (device cfg) (timer, wf)
      (.ret (), wf.called (device cfg) (.guardTimerSet true) ()) :=
    Step.call (o := Op.guardTimerSet true) (k := .ret) () (.refl wf) rfl
  exact ⟨wf.called (device cfg) (.guardTimerSet true) (),
    (((Reach.init.step hset).step hread).step hfeed).step htimer, rfl,
    fun hw => ⟨trivial, trivial, trivial, hw⟩⟩

-- ===================================================================== the law

/-- The rounded count is the number of periods in the budget if and only
if the budget is a multiple of the period that the rounding can hold. -/
theorem divRoundUp_floor_iff {budgetS : Nat} (hb : budgetS < 4294967296) :
    (∀ i, 1 ≤ i → (i ≤ divRoundUp budgetS WDT_GUARD_PERIOD_S
      ↔ WDT_GUARD_PERIOD_S * i ≤ budgetS)) ↔
      WDT_GUARD_PERIOD_S ∣ budgetS ∧ budgetS + 29 < 4294967296 := by
  have hround : divRoundUp budgetS WDT_GUARD_PERIOD_S
      = (budgetS + 29) % 4294967296 / 30 := by
    unfold divRoundUp u32 WDT_GUARD_PERIOD_S
    have hsum : (budgetS : Int) + (30 : Nat) - 1
        = ((budgetS + 29 : Nat) : Int) := by
      omega
    rw [hsum]
    omega
  rw [hround]
  unfold WDT_GUARD_PERIOD_S
  constructor
  · intro h
    have hceil := h ((budgetS + 29) % 4294967296 / 30)
    have hone := h 1 (Nat.le_refl _)
    omega
  · rintro ⟨⟨m, rfl⟩, hwrap⟩ i hi
    omega

/-- The guard feeds at its start and at every period within its budget,
and never else, if and only if the budget is a multiple of the period, and
not one of the last of an unsigned int. -/
theorem guard_budget_iff {w : Tracker} (hw : Always Punctual w.log)
    (hrun : 0 ≤ w.st.wdtChannel) (hidle : w.dev.guardArmed = false)
    {budgetS : Nat} (hb : budgetS < 4294967296) :
    (∀ w₁ w₂ l, Reach (device cfg) (watchdogGuardStart budgetS) w (.ret (), w₁) →
      w₁.dev.now = w.dev.now → Moves (device cfg) w₁ w₂ →
      Always Punctual w₂.log → w₂.log = l ++ w.log →
      ∀ τ < w₂.dev.now, τ ∈ fed l ↔ τ = w.dev.now ∨
        ∃ i, 1 ≤ i ∧ WDT_GUARD_PERIOD_S * i ≤ budgetS ∧
          τ = w.dev.now + guardPeriodMs * i) ↔
      WDT_GUARD_PERIOD_S ∣ budgetS ∧ budgetS + 29 < 4294967296 := by
  have hstart : Instant w.dev.now (Starting w.log 0 false []) w :=
    ⟨Nat.le_refl _, fun _ => ⟨⟨[], rfl, rfl⟩, hrun, hidle, nofun⟩⟩
  have hguards : ∀ w₁, Reach (device cfg) (watchdogGuardStart budgetS) w
      (.ret (), w₁) → w₁.dev.now = w.dev.now →
      Guarding w.dev.now (divRoundUp budgetS WDT_GUARD_PERIOD_S) w.log 0 w₁ :=
    fun w₁ hr => (guardStart_guards w.dev.now w.log budgetS).result hstart
      trivial hr (always_free _)
  have hshift : ∀ n τ, (∃ i ≤ n, τ = w.dev.now + guardPeriodMs * i) ↔
      τ = w.dev.now ∨ ∃ i, 1 ≤ i ∧ i ≤ n ∧ τ = w.dev.now + guardPeriodMs * i := by
    intro n τ
    constructor
    · rintro ⟨i, hi, hτ⟩
      rcases Nat.eq_zero_or_pos i with rfl | hpos
      · exact .inl hτ
      · exact .inr ⟨i, hpos, hi, hτ⟩
    · rintro (hτ | ⟨i, -, hi, hτ⟩)
      · exact ⟨0, Nat.zero_le _, hτ⟩
      · exact ⟨i, hi, hτ⟩
  -- what is left is whether the guard counts as many periods as fit into the
  -- budget
  rw [← divRoundUp_floor_iff hb]
  constructor
  · intro h i hi
    -- forwards, by a run that outlasts period `i`: it feeds there if and only
    -- if the guard counts that far
    obtain ⟨w₁, hr, hnow, hpunctual⟩ := @guardStart_runs cfg _ hrun budgetS
    have h₁ := hguards w₁ hr hnow
    obtain ⟨w₂, hm, hG, hlong⟩ := h₁.ages (hpunctual hw)
      (w.dev.now + guardPeriodMs * i + 1)
    obtain ⟨k, h₂⟩ := h₁.run hm hG
    obtain ⟨l, hl, -⟩ := h₂.since
    have hclaim := h w₁ w₂ l hr hnow hm hG hl (w.dev.now + guardPeriodMs * i)
      hlong
    rw [h₂.fed_iff hl hlong, hshift] at hclaim
    have hpos : 0 < guardPeriodMs := by decide
    have hinj : ∀ j, w.dev.now + guardPeriodMs * i
        = w.dev.now + guardPeriodMs * j → j = i := fun j hj =>
      (Nat.eq_of_mul_eq_mul_left hpos (Nat.add_left_cancel hj)).symm
    have hne : w.dev.now + guardPeriodMs * i ≠ w.dev.now := by
      have := Nat.mul_pos hpos hi
      omega
    constructor
    · intro hin
      rcases hclaim.mp (.inr ⟨i, hi, hin, rfl⟩) with he | ⟨j, -, hj, he⟩
      · exact absurd he hne
      · rwa [hinj j he] at hj
    · intro hin
      rcases hclaim.mpr (.inr ⟨i, hi, hin, rfl⟩) with he | ⟨j, -, hj, he⟩
      · exact absurd he hne
      · rwa [hinj j he] at hj
  · intro h w₁ w₂ l hr hnow hm hG hl τ hτ
    -- backwards, the two counts agree in every run
    obtain ⟨k, hk⟩ := (hguards w₁ hr hnow).run hm hG
    rw [hk.fed_iff hl hτ, hshift]
    refine or_congr_right (exists_congr fun i => ?_)
    constructor
    · rintro ⟨hi, hin, hτi⟩
      exact ⟨hi, (h i hi).mp hin, hτi⟩
    · rintro ⟨hi, hin, hτi⟩
      exact ⟨hi, (h i hi).mpr hin, hτi⟩

/-- A device at power-on whose watchdog runs. -/
def watched : Tracker :=
  { start {} with st := { Statics.boot {} 0 0 with wdtChannel := 0 } }

/-- The budget of a connect is a multiple of the period. -/
theorem guard_budget_iff_connect :
    WDT_GUARD_PERIOD_S ∣ 240 ∧
    ∀ w₁ w₂ l, Reach (device {}) (watchdogGuardStart 240) watched (.ret (), w₁) →
      w₁.dev.now = watched.dev.now → Moves (device {}) w₁ w₂ →
      Always Punctual w₂.log → w₂.log = l ++ watched.log →
      ∀ τ < w₂.dev.now, τ ∈ fed l ↔ τ = watched.dev.now ∨
        ∃ i, 1 ≤ i ∧ WDT_GUARD_PERIOD_S * i ≤ 240 ∧
          τ = watched.dev.now + guardPeriodMs * i :=
  ⟨by decide, (guard_budget_iff (w := watched) trivial (by decide) rfl
    (by decide)).mpr (by decide)⟩

/-- `watched` after a start with a budget of 31 seconds. -/
def overrun : Tracker := (play (device {}) calm 5 (watchdogGuardStart 31) watched).2

/-- And two expiries later. -/
def overran : Tracker :=
  [Move.tick 30000, .guardTick, .tick 30000, .guardTick, .tick 1].foldl
    (fun w a => w.moved (device {}) a) overrun

/-- A budget of 31 seconds feeds after 60. -/
theorem guard_overruns :
    ∃ w₁ w₂ l τ, Reach (device {}) (watchdogGuardStart 31) watched (.ret (), w₁) ∧
      w₁.dev.now = watched.dev.now ∧ Moves (device {}) w₁ w₂ ∧
      Always Punctual w₂.log ∧ w₂.log = l ++ watched.log ∧
      τ < w₂.dev.now ∧ τ ∈ fed l ∧
      ¬(τ = watched.dev.now ∨ ∃ i, 1 ≤ i ∧ WDT_GUARD_PERIOD_S * i ≤ 31 ∧
          τ = watched.dev.now + guardPeriodMs * i) := by
  have hr : Reach (device {}) (watchdogGuardStart 31) watched
      (play (device {}) calm 5 (watchdogGuardStart 31) watched) :=
    play_reach .init
  -- 31 s are rounded up to two periods
  have hplayed : playMoves (device {}) [Move.tick 30000, .guardTick, .tick 30000,
      .guardTick, .tick 1] overrun = some overran := rfl
  have hmoves : Moves (device {}) overrun overran :=
    playMoves_moves (.refl overrun) hplayed
  have hpunctual : Always Punctual overran.log := by
    refine ⟨?_, rfl, ?_, rfl, ?_, trivial, trivial, trivial, trivial⟩
    · rintro due ⟨⟩
      decide
    · rintro due ⟨⟩
      decide
    · rintro due ⟨⟩
      decide
  refine ⟨overrun, overran, overran.log, 60000, hr, rfl, hmoves, hpunctual,
    ?_, by decide, by decide, ?_⟩
  · exact (List.append_nil _).symm
  · rintro (h | ⟨i, hi, hin, hτ⟩)
    · cases h
    · have hi' : i = 1 := by
        unfold WDT_GUARD_PERIOD_S at hin
        omega
      rw [hi'] at hτ
      cases hτ

end GpsTracker
