/-
Programs as call trees, and the worlds they run in.

A `Prog` is one thread of a program: it reads and writes its own static
variables, and everything else it does is a call whose answer comes
from outside. The outside is a `Machine`: which answers it may give,
what a call does to the device state, and which moves it may make by
itself. A `World` is the thread's statics, the device state and the log
of everything that happened, newest event first.

# Where the interleaving goes

The machine's own moves never touch the thread's statics, and the thread
sees the device through calls only, so an own move between two calls may
be put off until the next call without anybody noticing. A step of the
thread is therefore "any number of own moves, then the call", and this
loses no interleaving.

# Loops

A loop of the source is written with a fuel argument that ends in
`stop`, the program with no further step. What is proved of every
reachable world for every fuel is proved of every finite part of every
run of the unbounded loop.
-/

namespace Proc

/-- A signature of calls: the operations and the type of each answer. -/
structure Sig where
  Op : Type
  Ret : Op → Type

/-- One thread with statics `σ` over the calls of `S`. -/
inductive Prog (σ : Type) (S : Sig) (α : Type) : Type
  | ret (a : α)
  | stop
  | read (k : σ → Prog σ S α)
  | write (f : σ → σ) (p : Prog σ S α)
  | call (o : S.Op) (k : S.Ret o → Prog σ S α)

variable {σ δ A : Type} {S : Sig} {α β γ : Type}

namespace Prog

/-- Sequencing: graft `f` onto the leaves of `p`. -/
def bind : Prog σ S α → (α → Prog σ S β) → Prog σ S β
  | .ret a, f => f a
  | .stop, _ => .stop
  | .read k, f => .read fun s => (k s).bind f
  | .write g p, f => .write g (p.bind f)
  | .call o k, f => .call o fun r => (k r).bind f

instance : Monad (Prog σ S) where
  pure := .ret
  bind := Prog.bind

/-- The statics. -/
def get : Prog σ S σ := .read .ret

/-- Update the statics. -/
def modify (f : σ → σ) : Prog σ S Unit := .write f (.ret ())

/-- One call. -/
def op (o : S.Op) : Prog σ S (S.Ret o) := .call o .ret

/-- Nothing further happens. -/
def halt : Prog σ S α := .stop

/-- Sequencing is associative. -/
theorem bind_assoc (p : Prog σ S α) (f : α → Prog σ S β)
    (g : β → Prog σ S γ) : p >>= f >>= g = p >>= fun a => f a >>= g := by
  show (p.bind f).bind g = p.bind fun a => (f a).bind g
  induction p with
  | ret a => rfl
  | stop => rfl
  | read k ih => exact congrArg Prog.read (funext ih)
  | write f p ih => exact congrArg (Prog.write f) ih
  | call o k ih => exact congrArg (Prog.call o) (funext ih)

/-- And a program that only hands on its result may be left out. -/
theorem bind_pure (p : Prog σ S α) : p >>= pure = p := by
  show p.bind .ret = p
  induction p with
  | ret a => rfl
  | stop => rfl
  | read k ih => exact congrArg Prog.read (funext ih)
  | write f p ih => exact congrArg (Prog.write f) ih
  | call o k ih => exact congrArg (Prog.call o) (funext ih)

end Prog

/-- The outside of a thread: which answers it may give (`ok`), what an
answered call does to the device (`effect`), which own moves are enabled
(`can`) and what they do (`move`). -/
structure Machine (δ A : Type) (S : Sig) where
  ok : (o : S.Op) → S.Ret o → δ → Bool
  effect : (o : S.Op) → S.Ret o → δ → δ
  can : A → δ → Bool
  move : A → δ → δ

/-- One entry of the log, with the statics and the device state it
happened in. -/
inductive Event (σ δ A : Type) (S : Sig) : Type
  | call (st : σ) (dev : δ) (o : S.Op) (r : S.Ret o)
  | env (st : σ) (dev : δ) (a : A)

/-- The device state an event happened in. -/
def Event.dev : Event σ δ A S → δ
  | .call _ d _ _ => d
  | .env _ d _ => d

/-- The thread's statics when an event happened. -/
def Event.st : Event σ δ A S → σ
  | .call s _ _ _ => s
  | .env s _ _ => s

/-- Everything that happened so far, newest first. -/
abbrev Log (σ δ A : Type) (S : Sig) := List (Event σ δ A S)

/-- Statics, device and log. -/
structure World (σ δ A : Type) (S : Sig) where
  st : σ
  dev : δ
  log : Log σ δ A S

namespace World

/-- The world after call `o` was answered `r`. -/
def called (M : Machine δ A S) (w : World σ δ A S) (o : S.Op)
    (r : S.Ret o) : World σ δ A S :=
  { st := w.st, dev := M.effect o r w.dev
    log := .call w.st w.dev o r :: w.log }

/-- The world after own move `a`. -/
def moved (M : Machine δ A S) (w : World σ δ A S) (a : A) :
    World σ δ A S :=
  { st := w.st, dev := M.move a w.dev, log := .env w.st w.dev a :: w.log }

/-- The world after a static update. -/
def wrote (w : World σ δ A S) (f : σ → σ) : World σ δ A S :=
  { w with st := f w.st }

end World

/-- `Moves M w w'`: the machine's own moves lead from `w` to `w'`. -/
inductive Moves (M : Machine δ A S) :
    World σ δ A S → World σ δ A S → Prop
  | refl (w) : Moves M w w
  | step {w w' : World σ δ A S} (a : A) :
      Moves M w w' → M.can a w'.dev = true → Moves M w (w'.moved M a)

/-- One step of a thread in its world. -/
inductive Step (M : Machine δ A S) :
    Prog σ S α × World σ δ A S → Prog σ S α × World σ δ A S → Prop
  | read {k : σ → Prog σ S α} {w : World σ δ A S} :
      Step M (.read k, w) (k w.st, w)
  | write {f : σ → σ} {p : Prog σ S α} {w : World σ δ A S} :
      Step M (.write f p, w) (p, w.wrote f)
  | call {o : S.Op} {k : S.Ret o → Prog σ S α} {w w' : World σ δ A S}
      (r : S.Ret o) :
      Moves M w w' → M.ok o r w'.dev = true →
      Step M (.call o k, w) (k r, w'.called M o r)

/-- Everything a thread started as `p` in `w` can become. -/
inductive Reach (M : Machine δ A S) (p : Prog σ S α)
    (w : World σ δ A S) : Prog σ S α × World σ δ A S → Prop
  | init : Reach M p w (p, w)
  | step {c c' : Prog σ S α × World σ δ A S} :
      Reach M p w c → Step M c c' → Reach M p w c'

-- ==================================================== executable spine

/-- A scripted machine: the own moves before a call and its answer. -/
abbrev Script (σ δ A : Type) (S : Sig) :=
  World σ δ A S → (o : S.Op) → List A × S.Ret o

/-- Play a list of own moves, failing on the first disabled one. -/
def playMoves (M : Machine δ A S) :
    List A → World σ δ A S → Option (World σ δ A S)
  | [], w => some w
  | a :: as, w =>
      if M.can a w.dev then playMoves M as (w.moved M a) else none

/-- Run a thread against a script for at most `n` steps, stopping early
where the script gives an answer the machine does not allow. -/
def play (M : Machine δ A S) (scr : Script σ δ A S) :
    Nat → Prog σ S α → World σ δ A S → Prog σ S α × World σ δ A S
  | 0, p, w => (p, w)
  | _ + 1, .ret a, w => (.ret a, w)
  | _ + 1, .stop, w => (.stop, w)
  | n + 1, .read k, w => play M scr n (k w.st) w
  | n + 1, .write f p, w => play M scr n p (w.wrote f)
  | n + 1, .call o k, w =>
      match playMoves M (scr w o).1 w with
      | none => (.call o k, w)
      | some w' =>
          if M.ok o (scr w o).2 w'.dev then
            play M scr n (k (scr w o).2) (w'.called M o (scr w o).2)
          else (.call o k, w)

/-- Moves compose with one more list of moves. -/
theorem playMoves_moves {M : Machine δ A S} :
    ∀ {as : List A} {w₀ w w' : World σ δ A S}, Moves M w₀ w →
      playMoves M as w = some w' → Moves M w₀ w' := by
  intro as
  induction as with
  | nil =>
      intro w₀ w w' hm h
      cases h
      exact hm
  | cons a as ih =>
      intro w₀ w w' hm h
      unfold playMoves at h
      split at h
      case isTrue hcan => exact ih (.step a hm hcan) h
      case isFalse => cases h

/-- A scripted run is a run. -/
theorem play_reach {M : Machine δ A S} {scr : Script σ δ A S}
    {p₀ : Prog σ S α} {w₀ : World σ δ A S} :
    ∀ {n : Nat} {p : Prog σ S α} {w : World σ δ A S},
      Reach M p₀ w₀ (p, w) → Reach M p₀ w₀ (play M scr n p w) := by
  intro n
  induction n with
  | zero => intro p w h; exact h
  | succ n ih =>
      intro p w h
      cases p with
      | ret a => exact h
      | stop => exact h
      | read k => exact ih (.step h .read)
      | write f p => exact ih (.step h .write)
      | call o k =>
          unfold play
          split
          · exact h
          next w' hmoves =>
            split
            case isTrue hok =>
              exact ih (.step h
                (.call _ (playMoves_moves (.refl w) hmoves) hok))
            case isFalse => exact h

end Proc
