/-
Programs over one signature as programs over another.

A `Handler` answers every call of one signature by a program over the
other. Where a part of a program is modelled twice, with the calls it
makes in detail and as calls of the whole, the handler says what the
detailed calls come to, and `Prog.handle` that both models are one.
-/
import GpsTracker.Lib.Prog

namespace Proc

variable {σ α β γ : Type} {S T : Sig}

/-- A program over `T` for every call of `S`. -/
abbrev Handler (S : Sig) (σ : Type) (T : Sig) := (o : S.Op) → Prog σ T (S.Ret o)

namespace Prog

/-- Every call of a program without statics answered by its handler. -/
def handle (h : Handler S σ T) : Prog Unit S α → Prog σ T α
  | .ret a => .ret a
  | .stop => .stop
  | .read k => (k ()).handle h
  | .write _ p => p.handle h
  | .call o k => (h o).bind fun r => (k r).handle h

variable {h : Handler S σ T}

/-- A program that is over has nothing to answer. -/
theorem handle_pure (a : α) : (pure a : Prog Unit S α).handle h = pure a := rfl

/-- The handler of a sequence is the sequence of what it makes of the parts.
-/
theorem handle_bind (p : Prog Unit S α) (f : α → Prog Unit S β) :
    (p >>= f).handle h = p.handle h >>= fun a => (f a).handle h := by
  show (p.bind f).handle h = (p.handle h).bind fun a => (f a).handle h
  induction p with
  | ret a => rfl
  | stop => rfl
  | read k ih => exact ih ()
  | write g p ih => exact ih
  | call o k ih =>
      refine Eq.trans ?_ (bind_assoc (h o) _ _).symm
      exact congrArg (h o).bind (funext ih)

/-- And of a branch, the branch. -/
theorem handle_ite {c : Prop} [Decidable c] {p q : Prog Unit S α} :
    (if c then p else q).handle h
      = if c then p.handle h else q.handle h := by
  split <;> rfl

end Prog

end Proc
