/-
Protocols over a log: a deterministic automaton that reads what the
events of a run say, and the rules that show that a program follows it.

A `Protocol` has stations and says which word may be said at each. It
is the abstract view of a program: words that the view does not care
about are not in its alphabet, so an event that says nothing leaves the
station alone. `run` reads a record, newest word first; a record that is
refused stays refused, so what every record of a run must satisfy is that
it is not refused.

# How a program is shown to follow a protocol

`At q` is the assertion "the record leads to `q`". A call that says a
word moves it along `next` (`Protocol.say`), everything silent keeps it
(`Protocol.silent`), and the rest is composition of triples.

# How a fact about runs follows from a protocol

`Protocol.invariant` is induction along the record: a relation between
record and station that each allowed word keeps holds of every record
the protocol accepts. Nothing about the program is left in such a proof.
-/
import GpsTracker.Lib.Safe

namespace Proc

/-- Stations, and where a word leads from each; `none` where it may not
be said. -/
structure Protocol (ε Q : Type) where
  start : Q
  next : Q → ε → Option Q

variable {σ δ A : Type} {S : Sig} {α ε Q : Type}

-- ================================================================= records

/-- What a log says, newest word first. -/
def said (word : Event σ δ A S → Option ε) (l : Log σ δ A S) : List ε :=
  l.filterMap word

section

variable {word : Event σ δ A S → Option ε} {e : Event σ δ A S}
variable {l : Log σ δ A S}

@[simp] theorem said_nil : said word [] = [] := rfl

/-- A word that an event says goes in front of those said before. -/
theorem said_some {a : ε} (h : word e = some a) :
    said word (e :: l) = a :: said word l := List.filterMap_cons_some h

/-- A silent event leaves the words as they are. -/
theorem said_none (h : word e = none) :
    said word (e :: l) = said word l := List.filterMap_cons_none h

end

/-- Every word of a record stands in relation `φ` to the record before
it. -/
def Each (φ : ε → List ε → Prop) (l : List ε) : Prop :=
  ∀ l₁ a l₂, l = l₁ ++ a :: l₂ → φ a l₂

namespace Protocol

variable (T : Protocol ε Q)

/-- The station a record leads to, `none` where it is refused. -/
def run : List ε → Option Q
  | [] => some T.start
  | a :: l => (run l).bind fun q => T.next q a

/-- The record is not refused. -/
def Accepts (l : List ε) : Prop := ∃ q, T.run l = some q

variable {T}

@[simp] theorem run_nil : T.run [] = some T.start := rfl

/-- The automaton reads its newest word last. -/
theorem run_cons {a : ε} {l : List ε} {q : Q} (h : T.run l = some q) :
    T.run (a :: l) = T.next q a := by
  simp only [run, h, Option.bind_some]

/-- The last word of a record was allowed where it was said. -/
theorem run_cons_inv {a : ε} {l : List ε} {q' : Q}
    (h : T.run (a :: l) = some q') :
    ∃ q, T.run l = some q ∧ T.next q a = some q' :=
  Option.bind_eq_some_iff.mp h

/-- What was accepted was accepted all along. -/
theorem Accepts.suffix {l₁ l₂ : List ε} (h : T.Accepts (l₁ ++ l₂)) :
    T.Accepts l₂ := by
  induction l₁ with
  | nil => exact h
  | cons a l₁ ih =>
      obtain ⟨q', hq'⟩ := h
      obtain ⟨q, hq, -⟩ := run_cons_inv hq'
      exact ih ⟨q, hq⟩

/-- A law about a word and the record before it, from what the protocol
knows where the word is said. -/
theorem Accepts.each {φ : ε → List ε → Prop} {l : List ε}
    (h : T.Accepts l)
    (hs : ∀ l q a q', T.run l = some q → T.next q a = some q' → φ a l) :
    Each φ l := by
  rintro l₁ a l₂ rfl
  obtain ⟨q', hq'⟩ := h.suffix
  obtain ⟨q, hq, hn⟩ := run_cons_inv hq'
  exact hs l₂ q a q' hq hn

/-- Induction along an accepted record. -/
theorem invariant {I : List ε → Q → Prop} (h₀ : I [] T.start)
    (hs : ∀ l q a q', I l q → T.next q a = some q' → I (a :: l) q') :
    ∀ {l : List ε} {q : Q}, T.run l = some q → I l q := by
  intro l
  induction l with
  | nil =>
      intro q h
      cases h
      exact h₀
  | cons a l ih =>
      intro q' h
      obtain ⟨q, hq, hn⟩ := run_cons_inv h
      exact hs l q a q' (ih hq) hn

/-- Counting along a record: each word of `r` gives a credit of `k`, each
word of `p` draws one, and `g` is what may still be drawn. -/
theorem credit {p r : ε → Bool} {k : Nat} {g : Q → Nat}
    (hs : ∀ q a q', T.next q a = some q' →
      (if p a then 1 else 0) + g q' ≤ g q + (if r a then k else 0))
    {l : List ε} {q : Q} (h : T.run l = some q) :
    l.countP p + g q ≤ g T.start + k * l.countP r := by
  refine invariant
    (I := fun l q => l.countP p + g q ≤ g T.start + k * l.countP r) ?_ ?_ h
  · simp
  · intro l q a q' hI hn
    have hstep := hs q a q' hn
    have hk : k * (if r a then 1 else 0) = if r a then k else 0 := by
      split
      · exact Nat.mul_one k
      · exact Nat.mul_zero k
    rw [List.countP_cons, List.countP_cons, Nat.mul_add, hk]
    omega

-- ================================================================ programs

variable (T)
variable (word : Event σ δ A S → Option ε)

/-- The log so far leads to `q`. -/
def At (q : Q) (w : World σ δ A S) : Prop :=
  T.run (said word w.log) = some q

/-- The log so far is not refused. -/
def Follows (w : World σ δ A S) : Prop := T.Accepts (said word w.log)

variable {T word}
variable {M : Machine δ A S} {G : Event σ δ A S → Log σ δ A S → Prop}

/-- To be somewhere is to have followed the automaton so far. -/
theorem At.follows {q : Q} {w : World σ δ A S} (h : T.At word q w) :
    T.Follows word w := ⟨q, h⟩

/-- An event that says nothing leaves the station. -/
theorem At.mute {q : Q} {w w' : World σ δ A S} {e : Event σ δ A S}
    (h : T.At word q w) (he : word e = none) (hl : w'.log = e :: w.log) :
    T.At word q w' := by
  unfold At
  rw [hl, said_none he]
  exact h

/-- An event that says `a` leads along `next`. -/
theorem At.hear {q q' : Q} {a : ε} {w w' : World σ δ A S}
    {e : Event σ δ A S} (h : T.At word q w) (he : word e = some a)
    (hn : T.next q a = some q') (hl : w'.log = e :: w.log) :
    T.At word q' w' := by
  unfold At
  rw [hl, said_some he, run_cons h]
  exact hn

/-- The machine's own moves say nothing. -/
def Mute (word : Event σ δ A S → Option ε) : Prop :=
  ∀ s d a, word (.env s d a) = none

/-- Silent calls and all writes keep the station. -/
theorem silent (hm : Mute word) {C : S.Op → Prop}
    (hc : ∀ o, C o → ∀ s d r, word (.call s d o r) = none) (q : Q) :
    Frame M G (T.Follows word) (T.At word q) C fun _ _ => True where
  stable := fun w a h _ _ => h.mute (hm w.st w.dev a) rfl
  calls := fun w o r ho h _ _ => h.mute (hc o ho w.st w.dev r) rfl
  writes := fun _ _ _ h => h
  gives := fun _ h => h.follows

/-- A call whose word does not depend on the statics. -/
theorem say (hm : Mute word) {o : S.Op} {q : Q} {f : S.Ret o → Q}
    (h : ∀ s d r, (∃ a, word (.call s d o r) = some a
        ∧ T.next q a = some (f r))
      ∨ word (.call s d o r) = none ∧ f r = q) :
    Triple M G (T.Follows word) (T.At word q) (Prog.op o)
      fun r => T.At word (f r) := by
  refine Triple.op (silent (C := fun _ => False) hm (by simp) q).stable ?_
  intro w r hw _ _
  have hq : T.At word (f r) (w.called M o r) := by
    rcases h w.st w.dev r with ⟨a, he, hn⟩ | ⟨he, hf⟩
    · exact hw.hear he hn rfl
    · rw [hf]
      exact hw.mute he rfl
  exact ⟨hq.follows, hq⟩

end Protocol

end Proc
