/-
A program logic for call trees: assertions on worlds, triples, and what
they say of every reachable world.

# The three parameters

- `G`, the steps considered: a relation between an event and the log
  before it. A triple speaks of the runs whose every event satisfies
  `G`; a law without a proviso takes `G := Free`.
- `J`, what is promised at every step, inside the program too.
- pre- and postconditions, which must survive the machine's own moves
  (`Stable`), since those may come before any call.

# How a proof goes

Say once what each call does to the assertion (`Triple.op`), put the
pieces together along the program text (`Triple.bind`), and leave the
parts that do not matter to `Frame.keeps`: a program whose calls and
writes are `Within` a harmless set keeps every assertion that the
harmless set keeps.
-/
import GpsTracker.Lib.Prog

namespace Proc

variable {σ δ A : Type} {S : Sig} {α β : Type}

-- ===================================================== past-time properties

/-- Every event of the log stands in relation `φ` to the log before
it. -/
def Always (φ : Event σ δ A S → Log σ δ A S → Prop) :
    Log σ δ A S → Prop
  | [] => True
  | e :: l => φ e l ∧ Always φ l

instance Always.decidable {φ : Event σ δ A S → Log σ δ A S → Prop}
    [∀ e l, Decidable (φ e l)] :
    (l : Log σ δ A S) → Decidable (Always φ l)
  | [] => isTrue trivial
  | e :: l =>
      match (inferInstance : Decidable (φ e l)), Always.decidable l with
      | isTrue h, isTrue hl => isTrue ⟨h, hl⟩
      | isFalse h, _ => isFalse fun hn => h hn.1
      | _, isFalse hl => isFalse fun hn => hl hn.2

@[simp] theorem always_nil {φ : Event σ δ A S → Log σ δ A S → Prop} :
    Always φ [] := trivial

@[simp] theorem always_cons {φ : Event σ δ A S → Log σ δ A S → Prop}
    {e : Event σ δ A S} {l : Log σ δ A S} :
    Always φ (e :: l) ↔ φ e l ∧ Always φ l := Iff.rfl

/-- `Always` read at one place of the log. -/
theorem always_iff {φ : Event σ δ A S → Log σ δ A S → Prop}
    {l : Log σ δ A S} :
    Always φ l ↔ ∀ l₁ e l₂, l = l₁ ++ e :: l₂ → φ e l₂ := by
  induction l with
  | nil =>
      constructor
      · intro _ l₁ e l₂ h
        cases l₁ <;> cases h
      · intro _
        trivial
  | cons a l ih =>
      rw [always_cons, ih]
      constructor
      · rintro ⟨ha, hl⟩ l₁ e l₂ h
        cases l₁ with
        | nil =>
            cases h
            exact ha
        | cons b l₁ =>
            cases h
            exact hl l₁ e l₂ rfl
      · intro h
        exact ⟨h [] a l rfl, fun l₁ e l₂ he =>
          h (a :: l₁) e l₂ (by rw [he]; rfl)⟩

/-- Two properties that agree at every event hold of the same logs. -/
theorem always_congr {φ ψ : Event σ δ A S → Log σ δ A S → Prop}
    {l : Log σ δ A S} (h : Always (fun e l => φ e l ↔ ψ e l) l) :
    Always φ l ↔ Always ψ l := by
  induction l with
  | nil => exact Iff.rfl
  | cons e l ih => exact and_congr h.1 (ih h.2)

/-- What follows from a property at every event holds at every event. -/
theorem Always.mono {φ ψ : Event σ δ A S → Log σ δ A S → Prop}
    {l : Log σ δ A S} (h : Always φ l) (hψ : ∀ e l, φ e l → ψ e l) :
    Always ψ l := by
  induction l with
  | nil => trivial
  | cons e l ih => exact ⟨hψ e l h.1, ih h.2⟩

/-- Two properties of every event hold together of every event. -/
theorem Always.and {φ ψ : Event σ δ A S → Log σ δ A S → Prop}
    {l : Log σ δ A S} (hφ : Always φ l) (hψ : Always ψ l) :
    Always (fun e l => φ e l ∧ ψ e l) l := by
  induction l with
  | nil => trivial
  | cons e l ih => exact ⟨⟨hφ.1, hψ.1⟩, ih hφ.2 hψ.2⟩

/-- The last thing a log says on a subject, `a` where it says nothing;
`word` is what an event says. -/
def latest {α : Type} (word : Event σ δ A S → Option α) (a : α)
    (l : Log σ δ A S) : α := (l.findSome? word).getD a

@[simp] theorem latest_nil {α : Type} {word : Event σ δ A S → Option α}
    {a : α} : latest word a [] = a := rfl

/-- The latest word is that of the newest event, if it says one, -/
theorem latest_some {α : Type} {word : Event σ δ A S → Option α} {a b : α}
    {e : Event σ δ A S} {l : Log σ δ A S} (h : word e = some b) :
    latest word a (e :: l) = b := by
  simp only [latest, List.findSome?_cons, h, Option.getD_some]

/-- and otherwise what it was before that event. -/
theorem latest_none {α : Type} {word : Event σ δ A S → Option α} {a : α}
    {e : Event σ δ A S} {l : Log σ δ A S} (h : word e = none) :
    latest word a (e :: l) = latest word a l := by
  simp only [latest, List.findSome?_cons, h]

/-- No proviso on the steps. -/
def Free : Event σ δ A S → Log σ δ A S → Prop := fun _ _ => True

/-- The guarantee that asks nothing holds of every log. -/
theorem always_free (l : Log σ δ A S) : Always Free l := by
  induction l with
  | nil => trivial
  | cons e l ih => exact ⟨trivial, ih⟩

-- ======================================================== safety of a program

variable (M : Machine δ A S)
variable (G : Event σ δ A S → Log σ δ A S → Prop)
variable (J : World σ δ A S → Prop)

/-- Every step of `p` from `w` that meets `G` keeps `J`, and `p` ends,
if it ends, in `Q`. -/
def Safe : Prog σ S α → (α → World σ δ A S → Prop) →
    World σ δ A S → Prop
  | .ret a, Q, w => Q a w
  | .stop, _, _ => True
  | .read k, Q, w => Safe (k w.st) Q w
  | .write f p, Q, w => J (w.wrote f) ∧ Safe p Q (w.wrote f)
  | .call o k, Q, w =>
      ∀ w' r, Moves M w w' → M.ok o r w'.dev = true →
        Always G (w'.called M o r).log →
        J (w'.called M o r) ∧ Safe (k r) Q (w'.called M o r)

/-- `P` survives the machine's own moves. -/
def Stable (P : World σ δ A S → Prop) : Prop :=
  ∀ w a, P w → M.can a w.dev = true →
    Always G (w.moved M a).log → P (w.moved M a)

/-- From `P`, the program is safe and ends in `Q`. -/
def Triple (P : World σ δ A S → Prop) (p : Prog σ S α)
    (Q : α → World σ δ A S → Prop) : Prop :=
  ∀ w, P w → Safe M G J p Q w

variable {M G J}

/-- Own moves only add to the log. -/
theorem Moves.log {w w' : World σ δ A S} (h : Moves M w w')
    (hG : Always G w'.log) : Always G w.log := by
  induction h with
  | refl => exact hG
  | step a _ _ ih => exact ih hG.2

/-- What each single move keeps, any number of them keeps. -/
theorem Stable.moves {P : World σ δ A S → Prop} (hs : Stable M G P)
    {w w' : World σ δ A S} (h : Moves M w w') (hG : Always G w'.log)
    (hP : P w) : P w' := by
  induction h with
  | refl => exact hP
  | step a _ hcan ih => exact hs _ a (ih hG.2) hcan hG

/-- Two stable facts are stable together. -/
theorem Stable.and {P Q : World σ δ A S → Prop} (hP : Stable M G P)
    (hQ : Stable M G Q) : Stable M G fun w => P w ∧ Q w :=
  fun w a h hcan hG => ⟨hP w a h.1 hcan hG, hQ w a h.2 hcan hG⟩

/-- Own moves leave the statics alone, so an assertion about them is
stable. -/
theorem Stable.static (p : σ → Prop) :
    Stable M G fun w => p w.st := fun _ _ h _ _ => h

/-- The consequence rule, by induction on the program. -/
theorem Safe.conseq {Q Q' : α → World σ δ A S → Prop}
    (hQ : ∀ a w, Q a w → Q' a w) :
    ∀ {p : Prog σ S α} {w : World σ δ A S},
      Safe M G J p Q w → Safe M G J p Q' w := by
  intro p
  induction p with
  | ret a => exact fun h => hQ a _ h
  | stop => exact fun _ => trivial
  | read k ih => exact fun h => ih _ h
  | write f p ih => exact fun h => ⟨h.1, ih h.2⟩
  | call o k ih =>
      intro w h w' r hm hok hG
      exact ⟨(h w' r hm hok hG).1, ih r (h w' r hm hok hG).2⟩

/-- The sequence rule: the second program is safe from wherever the first one
may return. -/
theorem Safe.bind {R : α → World σ δ A S → Prop}
    {Q : β → World σ δ A S → Prop} {f : α → Prog σ S β}
    (hf : ∀ a w, R a w → Safe M G J (f a) Q w) :
    ∀ {p : Prog σ S α} {w : World σ δ A S},
      Safe M G J p R w → Safe M G J (p.bind f) Q w := by
  intro p
  induction p with
  | ret a => exact fun h => hf a _ h
  | stop => exact fun _ => trivial
  | read k ih => exact fun h => ih _ h
  | write g p ih => exact fun h => ⟨h.1, ih h.2⟩
  | call o k ih =>
      intro w h w' r hm hok hG
      exact ⟨(h w' r hm hok hG).1, ih r (h w' r hm hok hG).2⟩

/-- What two proofs say of a program, one may use together. -/
theorem Safe.both {J' : World σ δ A S → Prop}
    {Q Q' : α → World σ δ A S → Prop} :
    ∀ {p : Prog σ S α} {w : World σ δ A S}, Safe M G J p Q w →
      Safe M G J' p Q' w → Safe M G J p (fun a w => Q a w ∧ Q' a w) w := by
  intro p
  induction p with
  | ret a => exact fun h h' => ⟨h, h'⟩
  | stop => exact fun _ _ => trivial
  | read k ih => exact fun h h' => ih _ h h'
  | write f p ih => exact fun h h' => ⟨h.1, ih h.2 h'.2⟩
  | call o k ih =>
      intro w h h' w' r hm hok hG
      obtain ⟨hJ, hsafe⟩ := h w' r hm hok hG
      exact ⟨hJ, ih r hsafe (h' w' r hm hok hG).2⟩

/-- One step keeps safety and `J`. -/
theorem Safe.step {Q : α → World σ δ A S → Prop}
    {c c' : Prog σ S α × World σ δ A S} (h : Safe M G J c.1 Q c.2)
    (hJ : J c.2) (hs : Step M c c') (hG : Always G c'.2.log) :
    J c'.2 ∧ Safe M G J c'.1 Q c'.2 := by
  cases hs with
  | read => exact ⟨hJ, h⟩
  | write => exact h
  | call r hm hok => exact h _ r hm hok hG

/-- Steps only add to the log. -/
theorem Step.log {c c' : Prog σ S α × World σ δ A S} (hs : Step M c c')
    (hG : Always G c'.2.log) : Always G c.2.log := by
  cases hs with
  | read => exact hG
  | write => exact hG
  | call r hm hok => exact hm.log hG.2

/-- What a safe program promises of everything it can become. -/
theorem Safe.reach {p : Prog σ S α} {w : World σ δ A S}
    {Q : α → World σ δ A S → Prop} {c : Prog σ S α × World σ δ A S}
    (h : Safe M G J p Q w) (hJ : J w) (hr : Reach M p w c)
    (hG : Always G c.2.log) : J c.2 ∧ Safe M G J c.1 Q c.2 := by
  induction hr with
  | init => exact ⟨hJ, h⟩
  | step _ hs ih =>
      obtain ⟨hJ', hsafe⟩ := ih (hs.log hG)
      exact hsafe.step hJ' hs hG

-- ================================================================ triples

namespace Triple

variable {P P' : World σ δ A S → Prop} {Q : β → World σ δ A S → Prop}
variable {R : α → World σ δ A S → Prop}

/-- What a triple is for: its invariant holds in every configuration that any
run of the program reaches. -/
theorem reach {p : Prog σ S α} (h : Triple M G J P p R)
    {w : World σ δ A S} (hP : P w) (hJ : J w)
    {c : Prog σ S α × World σ δ A S} (hr : Reach M p w c)
    (hG : Always G c.2.log) : J c.2 :=
  ((h w hP).reach hJ hr hG).1

/-- What a triple says of a run that ended. -/
theorem result {p : Prog σ S α} (h : Triple M G J P p R)
    {w w' : World σ δ A S} {a : α} (hP : P w) (hJ : J w)
    (hr : Reach M p w (.ret a, w')) (hG : Always G w'.log) : R a w' :=
  ((h w hP).reach hJ hr hG).2

/-- The consequence rule, both sides at once. -/
theorem conseq {p : Prog σ S α} {R' : α → World σ δ A S → Prop}
    (h : Triple M G J P p R) (hP : ∀ w, P' w → P w)
    (hR : ∀ a w, R a w → R' a w) : Triple M G J P' p R' :=
  fun w hw => (h w (hP w hw)).conseq hR

/-- A stronger precondition does. -/
theorem pre {p : Prog σ S α} (h : Triple M G J P p R)
    (hP : ∀ w, P' w → P w) : Triple M G J P' p R :=
  fun w hw => h w (hP w hw)

/-- A weaker postcondition does. -/
theorem post {p : Prog σ S α} {R' : α → World σ δ A S → Prop}
    (h : Triple M G J P p R) (hR : ∀ a w, R a w → R' a w) :
    Triple M G J P p R' :=
  fun w hw => (h w hw).conseq hR

theorem bind {p : Prog σ S α} {f : α → Prog σ S β}
    (hp : Triple M G J P p R)
    (hf : ∀ a, Triple M G J (R a) (f a) Q) :
    Triple M G J P (p >>= f) Q :=
  fun w hw => Safe.bind (fun a w' h => hf a w' h) (hp w hw)

theorem ret {a : α} (h : ∀ w, P w → R a w) :
    Triple M G J P (pure a) R := h

theorem halt : Triple M G J P (Prog.halt : Prog σ S α) R :=
  fun _ _ => trivial

/-- A program that is never started. -/
theorem never {p : Prog σ S α} :
    Triple M G J (fun _ => False) p R := fun _ h => h.elim

/-- Reading the statics: the continuation may name what it read. -/
theorem get {k : σ → Prog σ S β}
    (h : ∀ s, Triple M G J (fun w => P w ∧ w.st = s) (k s) Q) :
    Triple M G J P (Prog.get >>= k) Q :=
  fun w hw => h w.st w ⟨hw, rfl⟩

theorem modify {f : σ → σ} {R : Unit → World σ δ A S → Prop}
    (h : ∀ w, P w → J (w.wrote f) ∧ R () (w.wrote f)) :
    Triple M G J P (Prog.modify f) R := h

/-- One call: the precondition waits through the machine's own moves,
then the answer establishes the postcondition. -/
theorem op {o : S.Op} {R : S.Ret o → World σ δ A S → Prop}
    (hs : Stable M G P)
    (h : ∀ w r, P w → M.ok o r w.dev = true →
      Always G (w.called M o r).log →
      J (w.called M o r) ∧ R r (w.called M o r)) :
    Triple M G J P (Prog.op o) R :=
  fun _ hw w' r hm hok hG =>
    h w' r (hs.moves hm hG.2 hw) hok hG

theorem ite {c : Prop} [Decidable c] {p q : Prog σ S α}
    (hp : c → Triple M G J P p R) (hq : ¬c → Triple M G J P q R) :
    Triple M G J P (if c then p else q) R := by
  split
  case isTrue h => exact hp h
  case isFalse h => exact hq h

/-- Two triples of one program, the promise kept by the first. -/
theorem and {p : Prog σ S α} {J' : World σ δ A S → Prop}
    {R' : α → World σ δ A S → Prop} (h : Triple M G J P p R)
    (h' : Triple M G J' P' p R') :
    Triple M G J (fun w => P w ∧ P' w) p fun a w => R a w ∧ R' a w :=
  fun w hw => (h w hw.1).both (h' w hw.2)

/-- Two preconditions, one postcondition. -/
theorem or {p : Prog σ S α} (hp : Triple M G J P p R)
    (hq : Triple M G J P' p R) :
    Triple M G J (fun w => P w ∨ P' w) p R :=
  fun w h => h.elim (hp w) (hq w)

/-- A pure fact in the precondition is a hypothesis. -/
theorem pure_pre {c : Prop} {p : Prog σ S α}
    (h : c → Triple M G J P p R) :
    Triple M G J (fun w => P w ∧ c) p R :=
  fun w hw => h hw.2 w hw.1

end Triple

-- ========================================================== harmless parts

/-- Every call of `p` is in `C` and every write of `p` is in `W`. -/
def Within (C : S.Op → Prop) (W : σ → σ → Prop) :
    Prog σ S α → Prop
  | .ret _ => True
  | .stop => True
  | .read k => ∀ s, Within C W (k s)
  | .write f p => (∀ s, W s (f s)) ∧ Within C W p
  | .call o k => C o ∧ ∀ r, Within C W (k r)

namespace Within

variable {C : S.Op → Prop} {W : σ → σ → Prop}

theorem bind {p : Prog σ S α} {f : α → Prog σ S β}
    (hp : Within C W p) (hf : ∀ a, Within C W (f a)) :
    Within C W (p >>= f) := by
  show Within C W (p.bind f)
  induction p with
  | ret a => exact hf a
  | stop => trivial
  | read k ih => exact fun s => ih s (hp s)
  | write g p ih => exact ⟨hp.1, ih hp.2⟩
  | call o k ih => exact ⟨hp.1, fun r => ih r (hp.2 r)⟩

/-- More calls and more writes allowed. -/
theorem mono {C' : S.Op → Prop} {W' : σ → σ → Prop} {p : Prog σ S α}
    (h : Within C W p) (hC : ∀ o, C o → C' o)
    (hW : ∀ s s', W s s' → W' s s') : Within C' W' p := by
  induction p with
  | ret a => trivial
  | stop => trivial
  | read k ih => exact fun s => ih s (h s)
  | write f p ih => exact ⟨fun s => hW s (f s) (h.1 s), ih h.2⟩
  | call o k ih => exact ⟨hC o h.1, fun r => ih r (h.2 r)⟩

/-- Two limits at once. -/
theorem and {C' : S.Op → Prop} {W' : σ → σ → Prop} {p : Prog σ S α}
    (h : Within C W p) (h' : Within C' W' p) :
    Within (fun o => C o ∧ C' o) (fun s s' => W s s' ∧ W' s s') p := by
  induction p with
  | ret a => trivial
  | stop => trivial
  | read k ih => exact fun s => ih s (h s) (h' s)
  | write f p ih => exact ⟨fun s => ⟨h.1 s, h'.1 s⟩, ih h.2 h'.2⟩
  | call o k ih => exact ⟨⟨h.1, h'.1⟩, fun r => ih r (h.2 r) (h'.2 r)⟩

theorem ret (a : α) : Within C W (pure a : Prog σ S α) := trivial

theorem halt : Within C W (Prog.halt : Prog σ S α) := trivial

theorem op {o : S.Op} (h : C o) : Within C W (Prog.op o) :=
  ⟨h, fun _ => trivial⟩

theorem get : Within C W (Prog.get : Prog σ S σ) := fun _ => trivial

theorem modify {f : σ → σ} (h : ∀ s, W s (f s)) :
    Within C W (Prog.modify f : Prog σ S Unit) := ⟨h, trivial⟩

theorem ite {c : Prop} [Decidable c] {p q : Prog σ S α}
    (hp : Within C W p) (hq : Within C W q) :
    Within C W (if c then p else q) := by
  split
  · exact hp
  · exact hq

end Within

/-- `P` survives own moves, the calls of `C` and the writes of `W`, and
gives `J`. -/
structure Frame (M : Machine δ A S)
    (G : Event σ δ A S → Log σ δ A S → Prop)
    (J P : World σ δ A S → Prop) (C : S.Op → Prop)
    (W : σ → σ → Prop) : Prop where
  stable : Stable M G P
  calls : ∀ w o r, C o → P w → M.ok o r w.dev = true →
    Always G (w.called M o r).log → P (w.called M o r)
  writes : ∀ w f, W w.st (f w.st) → P w → P (w.wrote f)
  gives : ∀ w, P w → J w

/-- A program within the frame keeps the assertion. -/
theorem Frame.keeps {P : World σ δ A S → Prop} {C : S.Op → Prop}
    {W : σ → σ → Prop} (hF : Frame M G J P C W) :
    ∀ {p : Prog σ S α}, Within C W p →
      Triple M G J P p fun _ => P := by
  intro p
  induction p with
  | ret a => exact fun _ w hw => hw
  | stop => exact fun _ w _ => trivial
  | read k ih => exact fun h w hw => ih w.st (h w.st) w hw
  | write f p ih =>
      intro h w hw
      have hw' := hF.writes w f (h.1 w.st) hw
      exact ⟨hF.gives _ hw', ih h.2 _ hw'⟩
  | call o k ih =>
      intro h w hw w' r hm hok hG
      have hw' := hF.calls w' o r h.1 (hF.stable.moves hm hG.2 hw) hok hG
      exact ⟨hF.gives _ hw', ih r (h.2 r) _ hw'⟩

/-- What every own move, call and write keeps holds of every program. -/
theorem Frame.invariant {P : World σ δ A S → Prop}
    (hF : Frame M G J P (fun _ => True) fun _ _ => True)
    (p : Prog σ S α) : Triple M G J P p fun _ => P := by
  refine hF.keeps ?_
  induction p with
  | ret a => trivial
  | stop => trivial
  | read k ih => exact fun s => ih s
  | write f p ih => exact ⟨fun _ => trivial, ih⟩
  | call o k ih => exact ⟨trivial, fun r => ih r⟩

/-- So it holds wherever a program that starts in it can get. -/
theorem Frame.invariant_reach {P : World σ δ A S → Prop}
    (hF : Frame M Free P P (fun _ => True) fun _ _ => True)
    {p : Prog σ S α} {w : World σ δ A S} (hP : P w)
    {c : Prog σ S α × World σ δ A S} (hr : Reach M p w c) : P c.2 :=
  (hF.invariant p).reach hP hP hr (always_free c.2.log)

/-- What an invariant says of the log was so at every event. -/
theorem Frame.invariant_always {P : World σ δ A S → Prop}
    {φ : Log σ δ A S → Prop}
    (hF : Frame M Free P P (fun _ => True) fun _ _ => True)
    (hφ : ∀ w, P w → φ w.log) {p : Prog σ S α} {w : World σ δ A S}
    (hP : P w) (hlog : w.log = []) {c : Prog σ S α × World σ δ A S}
    (hr : Reach M p w c) : Always (fun _ => φ) c.2.log := by
  have hboth : Frame M Free (fun w => P w ∧ Always (fun _ => φ) w.log)
      (fun w => P w ∧ Always (fun _ => φ) w.log) (fun _ => True)
      fun _ _ => True :=
    { stable := fun w a h hcan hG =>
        ⟨hF.stable w a h.1 hcan hG, hφ w h.1, h.2⟩
      calls := fun w o r ho h hok hG =>
        ⟨hF.calls w o r ho h.1 hok hG, hφ w h.1, h.2⟩
      writes := fun w f hf h => ⟨hF.writes w f hf h.1, h.2⟩
      gives := fun _ h => h }
  have hstart : Always (fun _ => φ) w.log := by
    rw [hlog]
    trivial
  exact (hboth.invariant_reach ⟨hP, hstart⟩ hr).2

/-- A call within the frame keeps the assertion, and its answer is one
the machine may give. -/
theorem Frame.ask {P : World σ δ A S → Prop} {C : S.Op → Prop}
    {W : σ → σ → Prop} (hF : Frame M G J P C W) {o : S.Op} (ho : C o)
    {R : S.Ret o → World σ δ A S → Prop}
    (h : ∀ w r, P w → M.ok o r w.dev = true → R r (w.called M o r)) :
    Triple M G J P (Prog.op o) fun r w => P w ∧ R r w :=
  Triple.op hF.stable fun w r hP hok hG =>
    have hP' := hF.calls w o r ho hP hok hG
    ⟨hF.gives _ hP', hP', h w r hP hok⟩

/-- Own moves and calls leave the statics alone. -/
theorem Frame.static {P : World σ δ A S → Prop} {C : S.Op → Prop}
    {W : σ → σ → Prop} (hF : Frame M G J P C W) (p : σ → Prop) :
    Frame M G J (fun w => P w ∧ p w.st) C
      fun s s' => W s s' ∧ (p s → p s') where
  stable := hF.stable.and (Stable.static p)
  calls := fun w o r ho h hok hG => ⟨hF.calls w o r ho h.1 hok hG, h.2⟩
  writes := fun w f hf h => ⟨hF.writes w f hf.1 h.1, hf.2 h.2⟩
  gives := fun w h => hF.gives w h.1

/-- A frame of each is a frame of some. -/
theorem Frame.exists {ι : Type} {P : ι → World σ δ A S → Prop}
    {C : S.Op → Prop} {W : σ → σ → Prop}
    (hF : ∀ i, Frame M G J (P i) C W) :
    Frame M G J (fun w => ∃ i, P i w) C W where
  stable := fun w a ⟨i, h⟩ hcan hG => ⟨i, (hF i).stable w a h hcan hG⟩
  calls := fun w o r ho ⟨i, h⟩ hok hG =>
    ⟨i, (hF i).calls w o r ho h hok hG⟩
  writes := fun w f hf ⟨i, h⟩ => ⟨i, (hF i).writes w f hf h⟩
  gives := fun w ⟨i, h⟩ => (hF i).gives w h

/-- The frame of a point that is never reached. -/
theorem Frame.never {C : S.Op → Prop} {W : σ → σ → Prop} :
    Frame M G J (fun _ => False) C W where
  stable := fun _ _ h _ _ => h
  calls := fun _ _ _ _ h _ _ => h
  writes := fun _ _ _ h => h
  gives := fun _ h => h.elim

/-- A frame for more is a frame for less. -/
theorem Frame.mono {P : World σ δ A S → Prop} {C C' : S.Op → Prop}
    {W W' : σ → σ → Prop} (hF : Frame M G J P C W)
    (hC : ∀ o, C' o → C o) (hW : ∀ s s', W' s s' → W s s') :
    Frame M G J P C' W' where
  stable := hF.stable
  calls := fun w o r ho => hF.calls w o r (hC o ho)
  writes := fun w f hf => hF.writes w f (hW _ _ hf)
  gives := hF.gives

-- ================================================================= results

/-- Whatever `p` returns satisfies `Q`. -/
def Returns (Q : α → Prop) : Prog σ S α → Prop
  | .ret a => Q a
  | .stop => True
  | .read k => ∀ s, Returns Q (k s)
  | .write _ p => Returns Q p
  | .call _ k => ∀ r, Returns Q (k r)

namespace Returns

variable {Q : α → Prop} {Q' : β → Prop}

theorem bind {p : Prog σ S α} {f : α → Prog σ S β} (hp : Returns Q p)
    (hf : ∀ a, Q a → Returns Q' (f a)) : Returns Q' (p >>= f) := by
  show Returns Q' (p.bind f)
  induction p with
  | ret a => exact hf a hp
  | stop => trivial
  | read k ih => exact fun s => ih s (hp s)
  | write g p ih => exact ih hp
  | call o k ih => exact fun r => ih r (hp r)

theorem ret {a : α} (h : Q a) : Returns Q (pure a : Prog σ S α) := h

/-- After a call, for every answer. -/
theorem call {o : S.Op} {f : S.Ret o → Prog σ S β}
    (h : ∀ r, Returns Q' (f r)) : Returns Q' (Prog.op o >>= f) := h

/-- After a look at the statics, whatever they are. -/
theorem get {f : σ → Prog σ S β} (h : ∀ s, Returns Q' (f s)) :
    Returns Q' (Prog.get >>= f) := h

theorem ite {c : Prop} [Decidable c] {p q : Prog σ S α}
    (hp : c → Returns Q p) (hq : ¬c → Returns Q q) :
    Returns Q (if c then p else q) := by
  split
  case isTrue h => exact hp h
  case isFalse h => exact hq h

end Returns

/-- What a program returns can be added to any postcondition. -/
theorem Triple.returns {P : World σ δ A S → Prop} {Q : α → Prop}
    {R : α → World σ δ A S → Prop} {p : Prog σ S α}
    (h : Triple M G J P p R) (hq : Returns Q p) :
    Triple M G J P p fun a w => R a w ∧ Q a := by
  intro w hw
  have hs := h w hw
  clear h hw
  induction p generalizing w with
  | ret a => exact ⟨hs, hq⟩
  | stop => trivial
  | read k ih => exact ih w.st (hq w.st) w hs
  | write f p ih => exact ⟨hs.1, ih hq _ hs.2⟩
  | call o k ih =>
      intro w' r hm hok hG
      obtain ⟨hJ, hk⟩ := hs w' r hm hok hG
      exact ⟨hJ, ih r (hq r) _ hk⟩

-- ======================================================== the rest of a log

/-- `φ` of the events that come after `l₀`. -/
def Since (l₀ : Log σ δ A S) (φ : Event σ δ A S → Prop) :
    Event σ δ A S → Log σ δ A S → Prop := fun e l => l₀ <:+ l → φ e

/-- Events that each satisfy `φ` may be put on top of any log. -/
theorem always_since {φ : Event σ δ A S → Prop} {l₀ l : Log σ δ A S}
    (h : ∀ e ∈ l, φ e) : Always (Since l₀ φ) (l ++ l₀) := by
  induction l with
  | nil =>
      refine always_iff.mpr fun l₁ e l₂ hl hs => ?_
      have hlen := congrArg List.length hl
      have hle := hs.length_le
      simp only [List.nil_append, List.length_append, List.length_cons] at hlen
      omega
  | cons e l ih =>
      exact ⟨fun _ => h e List.mem_cons_self,
        ih fun e' he => h e' (List.mem_cons_of_mem _ he)⟩

/-- `X` of what has happened after `l₀` and the device. -/
def After (l₀ : Log σ δ A S) (X : Log σ δ A S → δ → Prop)
    (w : World σ δ A S) : Prop := ∃ l, w.log = l ++ l₀ ∧ X l w.dev

variable {φ : Event σ δ A S → Prop} {l₀ : Log σ δ A S}
variable {X : Log σ δ A S → δ → Prop}

/-- What the newest events have brought about is stable when every allowed
move keeps it. -/
theorem After.stable
    (h : ∀ l s d a, X l d → M.can a d = true → φ (.env s d a) →
      X (.env s d a :: l) (M.move a d)) :
    Stable M (Since l₀ φ) (After l₀ X) := by
  rintro w a ⟨l, hl, hx⟩ hcan hG
  have hφ : φ (.env w.st w.dev a) := hG.1 ⟨l, hl.symm⟩
  exact ⟨.env w.st w.dev a :: l, congrArg (List.cons _) hl,
    h l w.st w.dev a hx hcan hφ⟩

/-- One call, by what it adds to the record and does to the device. -/
theorem After.op {o : S.Op} {Y : S.Ret o → Log σ δ A S → δ → Prop}
    (hs : Stable M (Since l₀ φ) (After l₀ X))
    (h : ∀ l s d r, X l d → M.ok o r d = true → φ (.call s d o r) →
      Y r (.call s d o r :: l) (M.effect o r d)) :
    Triple M (Since l₀ φ) (fun _ => True) (After l₀ X) (Prog.op o)
      fun r => After l₀ (Y r) :=
  Triple.op hs fun w r hw hok hG => by
    obtain ⟨l, hl, hx⟩ := hw
    have hφ : φ (.call w.st w.dev o r) := hG.1 ⟨l, hl.symm⟩
    exact ⟨trivial, .call w.st w.dev o r :: l, congrArg (List.cons _) hl,
      h l w.st w.dev r hx hok hφ⟩

end Proc
