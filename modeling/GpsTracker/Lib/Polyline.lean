/-
Polylines: the function through a table of points, linear from each point
to the next and level beyond both ends.

The table stands from the greatest argument down, as a search from the
top meets it. `Falling` is what makes the function monotone: along the
table the arguments fall and the values do not rise.
-/
import Mathlib.Algebra.Order.Field.Basic

namespace Polyline

variable {K : Type*}

/-- A point of the table. -/
structure Point (K : Type*) where
  arg : K
  val : K

variable [LinearOrder K] {p q : Point K} {ps : List (Point K)} {x y : K}

/-- Arguments fall along the table, and values do not rise. -/
def Falling (ps : List (Point K)) : Prop :=
  ps.IsChain fun p q => q.arg < p.arg ∧ q.val ≤ p.val

/-- The first two points of a falling polyline are in order, -/
theorem Falling.head (h : Falling (p :: q :: ps)) :
    q.arg < p.arg ∧ q.val ≤ p.val := (List.isChain_cons_cons.mp h).1

/-- and the rest of it falls as well. -/
theorem Falling.tail (h : Falling (p :: q :: ps)) : Falling (q :: ps) :=
  (List.isChain_cons_cons.mp h).2

/-- Further points lie at smaller arguments. -/
theorem Falling.arg_lt {r : Point K} (h : Falling (p :: ps)) (hr : r ∈ ps) :
    r.arg < p.arg := by
  induction ps generalizing p with
  | nil => cases hr
  | cons q ps ih =>
      rcases List.mem_cons.mp hr with rfl | hr
      · exact h.head.1
      · exact (ih h.tail hr).trans h.head.1

variable [Field K]

/-- The line through `p` and `q` at `x`. -/
def chord (p q : Point K) (x : K) : K :=
  q.val + (p.val - q.val) * (x - q.arg) / (p.arg - q.arg)

/-- The polyline at `x`. -/
def value (x : K) : List (Point K) → K
  | [] => 0
  | [p] => p.val
  | p :: q :: rest =>
      if p.arg ≤ x then p.val
      else if q.arg ≤ x then chord p q x
      else value x (q :: rest)

/-- From the first argument on the polyline is level. -/
theorem value_high (h : p.arg ≤ x) : value x (p :: ps) = p.val := by
  cases ps with
  | nil => rfl
  | cons q ps => exact if_pos h

/-- Between two neighbouring points the polyline is their chord. -/
theorem value_chord (hp : x < p.arg) (hq : q.arg ≤ x) :
    value x (p :: q :: ps) = chord p q x := by
  rw [value, if_neg (not_le.mpr hp), if_pos hq]

/-- Below the second argument the first point does not matter. -/
theorem value_low (h : Falling (p :: q :: ps)) (hx : x < q.arg) :
    value x (p :: q :: ps) = value x (q :: ps) := by
  have hp : ¬p.arg ≤ x := not_le.mpr (hx.trans h.head.1)
  rw [value, if_neg hp, if_neg (not_le.mpr hx)]

/-- Below the table the polyline is level, too. -/
theorem value_below (hps : ps ≠ []) (h : ∀ p ∈ ps, x < p.arg) :
    value x ps = (ps.getLast hps).val := by
  induction ps with
  | nil => exact absurd rfl hps
  | cons p ps ih =>
      cases ps with
      | nil => rfl
      | cons q ps =>
          have hp : x < p.arg := h p (by simp)
          have hq : x < q.arg := h q (by simp)
          rw [value, if_neg (not_le.mpr hp), if_neg (not_le.mpr hq),
            ih (List.cons_ne_nil _ _) fun r hr =>
              h r (List.mem_cons_of_mem _ hr)]
          rfl

omit [LinearOrder K] in
/-- The chord starts at its lower point, -/
theorem chord_low : chord p q q.arg = q.val := by
  rw [chord, sub_self, mul_zero, zero_div, add_zero]

/-- The polyline goes through every point of its table. -/
theorem value_at (h : Falling ps) (hp : p ∈ ps) :
    value p.arg ps = p.val := by
  induction ps with
  | nil => cases hp
  | cons q ps ih =>
      rcases List.mem_cons.mp hp with rfl | hp
      · exact value_high (le_refl _)
      · cases ps with
        | nil => cases hp
        | cons r ps =>
            rcases List.mem_cons.mp hp with rfl | hps
            · rw [value_chord h.head.1 (le_refl _), chord_low]
            · rw [value_low h (h.tail.arg_lt hps)]
              exact ih h.tail hp

-- ============================================================== monotonicity

variable [IsStrictOrderedRing K]

/-- rises with its argument, -/
theorem chord_mono (harg : q.arg < p.arg) (hval : q.val ≤ p.val)
    (hxy : x ≤ y) : chord p q x ≤ chord p q y := by
  have hspan : 0 < p.arg - q.arg := sub_pos.mpr harg
  have hrise : 0 ≤ p.val - q.val := sub_nonneg.mpr hval
  unfold chord
  gcongr

/-- and ends at its upper point. -/
theorem chord_high (harg : q.arg < p.arg) : chord p q p.arg = p.val := by
  have hspan : p.arg - q.arg ≠ 0 := (sub_pos.mpr harg).ne'
  unfold chord
  rw [mul_div_cancel_right₀ _ hspan]
  exact add_sub_cancel q.val p.val

/-- The polyline does not rise above its first point. -/
theorem value_le (h : Falling (p :: ps)) : value x (p :: ps) ≤ p.val := by
  induction ps generalizing p with
  | nil => exact le_refl _
  | cons q ps ih =>
      obtain ⟨harg, hval⟩ := h.head
      rcases le_or_gt p.arg x with hp | hp
      · rw [value_high hp]
      · rcases le_or_gt q.arg x with hq | hq
        · rw [value_chord hp hq]
          calc chord p q x ≤ chord p q p.arg := chord_mono harg hval hp.le
            _ = p.val := chord_high harg
        · rw [value_low h hq]
          exact (ih h.tail).trans hval

/-- The polyline is monotone. -/
theorem value_mono (h : Falling ps) (hxy : x ≤ y) :
    value x ps ≤ value y ps := by
  induction ps with
  | nil => exact le_refl _
  | cons p ps ih =>
      cases ps with
      | nil => exact le_refl _
      | cons q ps =>
          obtain ⟨harg, hval⟩ := h.head
          rcases le_or_gt p.arg y with hp | hp
          · rw [value_high hp]
            exact value_le h
          · have hxp : x < p.arg := hxy.trans_lt hp
            rcases le_or_gt q.arg y with hqy | hqy
            · rw [value_chord hp hqy]
              rcases le_or_gt q.arg x with hqx | hqx
              · rw [value_chord hxp hqx]
                exact chord_mono harg hval hxy
              · rw [value_low h hqx]
                calc value x (q :: ps) ≤ q.val := value_le h.tail
                  _ = chord p q q.arg := chord_low.symm
                  _ ≤ chord p q y := chord_mono harg hval hqy
            · rw [value_low h hqy, value_low h (hxy.trans_lt hqy)]
              exact ih h.tail

end Polyline
