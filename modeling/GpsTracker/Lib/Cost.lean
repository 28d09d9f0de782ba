/-
What the parts of a program spend of a budget.

A budget is an assertion for every amount that is left, which a larger
amount only strengthens: so much later may some call end, so many messages
may still be sent. A part of a program spends an amount if, from the budget
that has it and any other left, it leaves the other. What the parts spend,
the whole adds up; and since every amount in between is one that is left,
what a budget promises holds throughout the part and not at its end alone.

The amounts are those of any ordered monoid.
-/
import GpsTracker.Lib.Safe
import Mathlib.Algebra.Order.Monoid.Unbundled.Basic

namespace Proc

variable {σ δ A : Type} {S : Sig} {α β : Type}
variable {M : Machine δ A S} {G : Event σ δ A S → Log σ δ A S → Prop}
variable {J : World σ δ A S → Prop}
variable {ι : Type} [AddMonoid ι]
variable {Left : ι → World σ δ A S → Prop}

/-- Where more is left, less is. -/
def Stretches [LE ι] (Left : ι → World σ δ A S → Prop) : Prop :=
  ∀ n m, n ≤ m → ∀ w, Left m w → Left n w

/-- Whatever is left besides, `p` spends at most `c`. -/
def Spends (M : Machine δ A S) (G : Event σ δ A S → Log σ δ A S → Prop)
    (J : World σ δ A S → Prop) (Left : ι → World σ δ A S → Prop) (c : ι)
    (p : Prog σ S α) : Prop :=
  ∀ n, Triple M G J (Left (c + n)) p fun _ => Left n

namespace Spends

/-- The sequence rule: what two programs spend adds up. -/
theorem bind {c c' : ι} {p : Prog σ S α} {f : α → Prog σ S β}
    (hp : Spends M G J Left c p) (hf : ∀ a, Spends M G J Left c' (f a)) :
    Spends M G J Left (c + c') (p >>= f) := by
  intro n
  rw [add_assoc]
  exact (hp (c' + n)).bind fun a => hf a n

/-- What follows may rely on what `p` returned. -/
theorem bind_returns {c c' : ι} {Q : α → Prop} {p : Prog σ S α}
    {f : α → Prog σ S β} (hp : Spends M G J Left c p) (hq : Returns Q p)
    (hf : ∀ a, Q a → Spends M G J Left c' (f a)) :
    Spends M G J Left (c + c') (p >>= f) := by
  intro n
  rw [add_assoc]
  exact ((hp (c' + n)).returns hq).bind fun a =>
    Triple.pure_pre fun ha => hf a ha n

/-- What follows on a part that spends nothing. -/
theorem after {c : ι} {p : Prog σ S α} {f : α → Prog σ S β}
    (hp : Spends M G J Left 0 p) (hf : ∀ a, Spends M G J Left c (f a)) :
    Spends M G J Left c (p >>= f) := by
  have h := hp.bind hf
  rwa [zero_add] at h

/-- And what spends nothing behind it. -/
theorem before {c : ι} {p : Prog σ S α} {f : α → Prog σ S β}
    (hp : Spends M G J Left c p) (hf : ∀ a, Spends M G J Left 0 (f a)) :
    Spends M G J Left c (p >>= f) := by
  have h := hp.bind hf
  rwa [add_zero] at h

/-- To return costs nothing, -/
theorem ret (a : α) : Spends M G J Left 0 (pure a : Prog σ S α) := by
  intro n
  rw [zero_add]
  exact Triple.ret fun _ h => h

/-- and a program that halts leaves no bill, whatever it was allotted. -/
theorem halt {c : ι} : Spends M G J Left c (Prog.halt : Prog σ S α) :=
  fun _ => Triple.halt

/-- Reading the statics is free. -/
theorem get {c : ι} {k : σ → Prog σ S α}
    (h : ∀ s, Spends M G J Left c (k s)) :
    Spends M G J Left c (Prog.get >>= k) := fun n =>
  Triple.get fun s => (h s n).pre fun _ h => h.1

/-- Both branches have to keep within the amount of the whole. -/
theorem ite {c : ι} {b : Prop} [Decidable b] {p q : Prog σ S α}
    (hp : Spends M G J Left c p) (hq : Spends M G J Left c q) :
    Spends M G J Left c (if b then p else q) := fun n =>
  Triple.ite (fun _ => hp n) fun _ => hq n

/-- A program that keeps every amount. -/
theorem keeps {C : S.Op → Prop} {W : σ → σ → Prop}
    (hF : ∀ n, Frame M G J (Left n) C W) {p : Prog σ S α}
    (hp : Within C W p) : Spends M G J Left 0 p := by
  intro n
  rw [zero_add]
  exact (hF n).keeps hp

variable [LE ι]

/-- More is a bound as well. -/
theorem mono [AddRightMono ι] (hL : Stretches Left) {c c' : ι}
    {p : Prog σ S α} (h : Spends M G J Left c p) (hc : c ≤ c') :
    Spends M G J Left c' p :=
  fun n => (h n).pre fun w hw => hL _ _ (add_le_add_left hc n) w hw

/-- A branch that returns at once spends no more than the other. -/
theorem ite_ret [AddRightMono ι] (hL : Stretches Left) {c : ι} (hc : 0 ≤ c)
    {b : Prop} [Decidable b] {a : α} {q : Prog σ S α}
    (hq : Spends M G J Left c q) :
    Spends M G J Left c (if b then pure a else q) :=
  ite ((ret a).mono hL hc) hq

/-- Between two amounts that are far enough apart. -/
theorem span (hL : Stretches Left) {c n m : ι} {p : Prog σ S α}
    (h : Spends M G J Left c p) (hn : c + m ≤ n) :
    Triple M G J (Left n) p fun _ => Left m :=
  (h m).pre fun w hw => hL _ _ hn w hw

end Spends

end Proc
