/-
A machine with more detail, and what carries over to it.

The detail of a machine may be left out of a model by letting a call
answer what it likes: so the slot of a mailbox is left out where a copy
may show anything. A `Shadow` is the view from the machine with the detail
on the one without it: every answer of the first is one of the second, and
a move of the first is a move of the second or leaves no trace there. A
run then has a run for its shadow, and what every run without the detail
promises, every run with it does.
-/
import GpsTracker.Lib.Mailbox

namespace Proc

variable {σ δ A δ' A' α V ι : Type} {S : Sig}

/-- `M` is what `M'` looks like from afar; `shade` is the move that a move
of `M'` is seen as, if it is seen. -/
structure Shadow (M' : Machine δ' A' S) (M : Machine δ A S) where
  view : δ' → δ
  shade : A' → Option A
  ok : ∀ o r d, M'.ok o r d = true → M.ok o r (view d) = true
  effect : ∀ o r d, view (M'.effect o r d) = M.effect o r (view d)
  unseen : ∀ a d, shade a = none → view (M'.move a d) = view d
  seen : ∀ a b d, shade a = some b → M'.can a d = true →
    M.can b (view d) = true ∧ view (M'.move a d) = M.move b (view d)

namespace Shadow

variable {M' : Machine δ' A' S} {M : Machine δ A S} (X : Shadow M' M)

/-- What is seen of an event. -/
def event : Event σ δ' A' S → Option (Event σ δ A S)
  | .call s d o r => some (.call s (X.view d) o r)
  | .env s d a => (X.shade a).map (.env s (X.view d))

/-- What is seen of a log. -/
def log (l : Log σ δ' A' S) : Log σ δ A S := l.filterMap X.event

/-- What is seen of a world. -/
def world (w : World σ δ' A' S) : World σ δ A S :=
  { st := w.st, dev := X.view w.dev, log := X.log w.log }

/-- A call casts its own shadow, with the device seen through the view. -/
@[simp] theorem log_call (s : σ) (d : δ') (o : S.Op) (r : S.Ret o)
    (l : Log σ δ' A' S) :
    X.log (.call s d o r :: l) = .call s (X.view d) o r :: X.log l := rfl

/-- The shadow of the world after a call is the world after that call on the
shadow. -/
theorem world_called (w : World σ δ' A' S) (o : S.Op) (r : S.Ret o) :
    X.world (w.called M' o r) = (X.world w).called M o r := by
  simp only [world, World.called, X.effect, log_call]

/-- A move is seen as a move, or not at all. -/
theorem world_moved {w : World σ δ' A' S} {a : A'}
    (hcan : M'.can a w.dev = true) :
    Moves M (X.world w) (X.world (w.moved M' a)) := by
  cases hs : X.shade a with
  | none =>
      have hsame : X.world (w.moved M' a) = X.world w := by
        simp [world, World.moved, X.unseen a w.dev hs, log, event, hs]
      rw [hsame]
      exact .refl _
  | some b =>
      obtain ⟨hcan', hmove⟩ := X.seen a b w.dev hs hcan
      have hsame : X.world (w.moved M' a) = (X.world w).moved M b := by
        simp [world, World.moved, hmove, log, event, hs]
      rw [hsame]
      exact .step b (.refl _) hcan'

/-- Moves join. -/
theorem moves_trans {w₁ w₂ w₃ : World σ δ A S} (h : Moves M w₁ w₂)
    (h' : Moves M w₂ w₃) : Moves M w₁ w₃ := by
  induction h' with
  | refl => exact h
  | step a _ hcan ih => exact .step a ih hcan

/-- The moves of the real device show as moves of its shadow, some of them as
none. -/
theorem moves {w w' : World σ δ' A' S} (h : Moves M' w w') :
    Moves M (X.world w) (X.world w') := by
  induction h with
  | refl => exact .refl _
  | step a _ hcan ih => exact moves_trans ih (X.world_moved hcan)

/-- One step of a program on the real device is the same step on the shadow.
-/
theorem step {c c' : Prog σ S α × World σ δ' A' S} (h : Step M' c c') :
    Step M (c.1, X.world c.2) (c'.1, X.world c'.2) := by
  cases h with
  | read => exact .read
  | write => exact .write
  | call r hm hok =>
      simp only [X.world_called]
      exact .call r (X.moves hm) (X.ok _ _ _ hok)

/-- The shadow of a run is a run. -/
theorem reach {p : Prog σ S α} {w : World σ δ' A' S}
    {c : Prog σ S α × World σ δ' A' S} (h : Reach M' p w c) :
    Reach M p (X.world w) (c.1, X.world c.2) := by
  induction h with
  | init => exact .init
  | step _ hs ih => exact .step ih (X.step hs)

/-- What is promised of the shadow of every event. -/
theorem always {φ : Event σ δ A S → Log σ δ A S → Prop}
    {l : Log σ δ' A' S} (h : Always φ (X.log l)) :
    Always (fun e l => ∀ e', X.event e = some e' → φ e' (X.log l)) l := by
  induction l with
  | nil => trivial
  | cons e l ih =>
      cases he : X.event e with
      | none =>
          have hlog : X.log (e :: l) = X.log l := List.filterMap_cons_none he
          rw [hlog] at h
          refine ⟨fun e' he' => ?_, ih h⟩
          rw [he] at he'
          cases he'
      | some e' =>
          have hlog : X.log (e :: l) = e' :: X.log l :=
            List.filterMap_cons_some he
          rw [hlog] at h
          refine ⟨fun e'' he'' => ?_, ih h.2⟩
          rw [he] at he''
          cases he''
          exact h.1

end Shadow

/-- Nothing that happens lowers the count of a mailbox. -/
theorem Machine.fed_counts [DecidableEq ι] {B : Box δ A V S}
    {M : Machine δ A S} (a : Post A ι V) (m : Mail B ι) :
    m.count ≤ ((M.fed B).move a m).count := by
  cases a with
  | put i v =>
      simp only [Machine.fed]
      split
      · exact Nat.le_succ _
      · exact Nat.le_refl _
  | _ => exact Nat.le_refl _

/-- A call does not touch it. -/
theorem Machine.fed_count [DecidableEq ι] {B : Box δ A V S}
    {M : Machine δ A S} (o : S.Op) (r : S.Ret o) (m : Mail B ι) :
    ((M.fed B).effect o r m).count = m.count := by
  simp only [Machine.fed]
  split <;> rfl

/-- From afar a mailbox is a semaphore that the machine gives by a move of
its own: the slot is not seen. -/
def Box.shadow [DecidableEq ι] {B : Box δ A V S} {M : Machine δ A S} (g : A)
    (hput : ∀ v d, B.put v d = d) (hcan : ∀ d, M.can g d = true)
    (hgive : ∀ d, B.give d = M.move g d) :
    Shadow (M.fed (ι := ι) B) M where
  view m := m.dev
  shade
    | .own a => some a
    | .put .. => none
    | .give _ => some g
  ok o r m h := (Bool.and_eq_true_iff.mp h).1
  effect o r m := by
    simp only [Machine.fed]
    split <;> rfl
  unseen a m h := by
    cases a with
    | put i v =>
        simp only [Machine.fed]
        split
        · exact hput v m.dev
        · rfl
    | _ => cases h
  seen a b m h hc := by
    cases a with
    | own a =>
        cases h
        exact ⟨(Bool.and_eq_true_iff.mp hc).2, rfl⟩
    | put i v => cases h
    | give i =>
        cases h
        exact ⟨hcan m.dev, hgive m.dev⟩

end Proc
