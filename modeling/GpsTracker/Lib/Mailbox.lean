/-
A mailbox: one slot and one binary semaphore between senders that put a
message and then give, and an owner that resets, takes and copies.

The two steps of a sender are steps of their own, any number of senders
run at once, and every step may fall between any two of the owner's. The
owner is a program of `Lib.Prog`; `Machine.fed` adds the senders to the
machine it runs on.

# What holds under every interleaving

- the slot holds the message put last (`Kept.slot`);
- messages are numbered as they are put, and a sender that is about to
  give put its message no later than the slot's (`Mail.due_ok`);
- where the semaphore is available after a reset, a give made it so
  (`Kept.drained`).

A copy is therefore no older than the message whose give woke the owner.
It need not be that message, and nothing here says that it signals.
-/
import GpsTracker.Lib.Safe

namespace Proc

variable {σ δ A V ι : Type} {S : Sig}

/-- What a mailbox is made of: which messages a sender puts and which it
gives for, what a put and a give do to the device, which of the machine's
own moves leave the box alone, and the owner's calls: those that empty
the slot, those that leave the semaphore unavailable, and what a copy
shows of the slot. -/
structure Box (δ A V : Type) (S : Sig) where
  accepts : V → Bool
  signals : V → Bool
  put : V → δ → δ
  give : δ → δ
  sem : δ → Bool
  own : A → Bool
  clears : S.Op → Bool
  drains : (o : S.Op) → S.Ret o → Bool
  shows : (o : S.Op) → S.Ret o → Option V → Bool

/-- The device with a mailbox: the messages put so far are counted, `slot`
is the last of them since the slot was emptied, and `due` what each
sender put and has not given for yet. -/
structure Mail (B : Box δ A V S) (ι : Type) where
  dev : δ
  count : Nat
  slot : Option V
  due : ι → Option (Nat × V)
  due_ok : ∀ i n v, due i = some (n, v) →
    0 < n ∧ n ≤ count ∧ B.signals v = true
  slot_ok : ∀ v, slot = some v → B.accepts v = true
  full : (∀ o, B.clears o = false) → 0 < count → slot.isSome = true

/-- A mailbox at rest on the device `d`. -/
def Mail.resting (B : Box δ A V S) (ι : Type) (d : δ) : Mail B ι where
  dev := d
  count := 0
  slot := none
  due _ := none
  due_ok _ _ _ := nofun
  slot_ok _ := nofun
  full _ h := nomatch h

/-- The moves of a machine with a mailbox. -/
inductive Post (A ι V : Type)
  | own (a : A)
  | put (i : ι) (v : V)
  | give (i : ι)
deriving DecidableEq

namespace Mail

variable {B : Box δ A V S}

/-- The device changes, the mailbox does not. -/
def withDev (m : Mail B ι) (d : δ) : Mail B ι := { m with dev := d }

/-- The owner empties the slot. -/
def cleared (m : Mail B ι) (o : S.Op) (h : B.clears o = true) : Mail B ι :=
  { m with
    slot := none
    slot_ok := fun _ => nofun
    full := fun hno => by rw [hno o] at h; cases h }

variable [DecidableEq ι]

/-- A sender puts an accepted message. -/
def stored (m : Mail B ι) (i : ι) (v : V) (hv : B.accepts v = true) :
    Mail B ι where
  dev := B.put v m.dev
  count := m.count + 1
  slot := some v
  due j :=
    if j = i then (if B.signals v then some (m.count + 1, v) else none)
    else m.due j
  due_ok j n u h := by
    split at h
    · split at h
      next hs =>
        cases h
        exact ⟨Nat.succ_pos _, Nat.le_refl _, hs⟩
      next => cases h
    · obtain ⟨hpos, hle, hs⟩ := m.due_ok j n u h
      exact ⟨hpos, Nat.le_succ_of_le hle, hs⟩
  slot_ok u h := by
    cases h
    exact hv
  full _ _ := rfl

/-- A sender gives. -/
def gave (m : Mail B ι) (i : ι) : Mail B ι where
  dev := B.give m.dev
  count := m.count
  slot := m.slot
  due j := if j = i then none else m.due j
  due_ok j n u h := by
    split at h
    · cases h
    · exact m.due_ok j n u h
  slot_ok := m.slot_ok
  full := m.full

end Mail

/-- A machine with senders `ι` on the mailbox `B`. A sender that puts is
not between put and give; a message it does not accept leaves no
trace. -/
def Machine.fed [DecidableEq ι] (M : Machine δ A S) (B : Box δ A V S) :
    Machine (Mail B ι) (Post A ι V) S where
  ok o r m := M.ok o r m.dev && B.shows o r m.slot
  effect o r m :=
    if h : B.clears o = true then (m.withDev (M.effect o r m.dev)).cleared o h
    else m.withDev (M.effect o r m.dev)
  can
    | .own a, m => B.own a && M.can a m.dev
    | .put i _, m => (m.due i).isNone
    | .give i, m => (m.due i).isSome
  move
    | .own a, m => m.withDev (M.move a m.dev)
    | .put i v, m =>
        if h : B.accepts v = true then m.stored i v h else m
    | .give i, m => m.gave i

/-- The device and the box agree on the semaphore. -/
structure Box.Fits (B : Box δ A V S) (M : Machine δ A S) : Prop where
  own : ∀ a d, B.own a = true → M.can a d = true →
    B.sem (M.move a d) = B.sem d
  put : ∀ v d, B.sem (B.put v d) = B.sem d
  drains : ∀ o r d, B.drains o r = true → B.sem (M.effect o r d) = false
  keeps : ∀ o r d, B.drains o r = false →
    B.sem (M.effect o r d) = B.sem d

-- ============================================================== the record

section record

variable {B : Box δ A V S}

/-- The log of a thread that owns a mailbox. -/
abbrev MailLog (σ : Type) (B : Box δ A V S) (ι : Type) :=
  Log σ (Mail B ι) (Post A ι V) S

/-- What an event says about the slot: a message is put, or the slot is
emptied. -/
def putWord : Event σ (Mail B ι) (Post A ι V) S → Option (Option V)
  | .env _ _ (.put _ v) => if B.accepts v then some (some v) else none
  | .call _ _ o _ => if B.clears o then some none else none
  | _ => none

/-- The message put last, where the slot held `v₀` at first. -/
def lastPut (v₀ : Option V) (l : MailLog σ B ι) : Option V :=
  (l.findSome? putWord).getD v₀

/-- What an event says about the semaphore: made available by a give, for
a message and with its number, or left unavailable. -/
def wakeWord : Event σ (Mail B ι) (Post A ι V) S →
    Option (Option (Nat × V))
  | .env _ m (.give i) => if B.sem m.dev then none else some (m.due i)
  | .call _ _ o r => if B.drains o r then some none else none
  | _ => none

/-- What `f` says of the log when an event of kind `p` last happened. -/
def lastTime {β : Type} (p : Event σ δ A S → Bool)
    (f : Event σ δ A S → Log σ δ A S → β) : Log σ δ A S → Option β
  | [] => none
  | e :: l => if p e then some (f e l) else lastTime p f l

/-- An event that never happened has no last time. -/
theorem lastTime_none {β : Type} {p : Event σ δ A S → Bool}
    {f : Event σ δ A S → Log σ δ A S → β} {l : Log σ δ A S}
    (h : l.any p = false) : lastTime p f l = none := by
  induction l with
  | nil => rfl
  | cons e l ih =>
      rw [List.any_cons, Bool.or_eq_false_iff] at h
      simp only [lastTime, h.1, Bool.false_eq_true, if_false]
      exact ih h.2

/-- What holds of the mailbox and its record, from the start of the
record on. -/
structure Kept (v₀ : Option V)
    (w : World σ (Mail B ι) (Post A ι V) S) : Prop where
  slot : w.dev.slot = lastPut v₀ w.log
  drained : w.log.findSome? wakeWord = some none → B.sem w.dev.dev = false
  woken : ∀ n v, w.log.findSome? wakeWord = some (some (n, v)) →
    0 < n ∧ n ≤ w.dev.count ∧ B.signals v = true

/-- An empty log keeps whatever the slot holds. -/
theorem Kept.start (w : World σ (Mail B ι) (Post A ι V) S)
    (hw : w.log = []) : Kept w.dev.slot w := by
  refine ⟨?_, ?_, ?_⟩
  · rw [hw]
    rfl
  · rw [hw]
    nofun
  · rw [hw]
    nofun

variable [DecidableEq ι] {M : Machine δ A S}

/-- Every own move and every sender's step keeps the record. -/
theorem Kept.moved (hB : B.Fits M) {v₀ : Option V}
    {w : World σ (Mail B ι) (Post A ι V) S} (h : Kept v₀ w)
    {a : Post A ι V} (hcan : (M.fed B).can a w.dev = true) :
    Kept v₀ (w.moved (M.fed B) a) := by
  cases a with
  | own a =>
      obtain ⟨hown, hdev⟩ := Bool.and_eq_true_iff.mp hcan
      exact ⟨h.slot, fun hd => (hB.own a _ hown hdev).trans (h.drained hd),
        h.woken⟩
  | put i v =>
      -- a frame that is not accepted changes nothing
      cases hv : B.accepts v with
      | false =>
          have hmove : (M.fed B).move (.put i v) w.dev = w.dev := by
            simp only [Machine.fed, hv, Bool.false_eq_true, dite_false]
          refine ⟨?_, fun hd => ?_, fun n u hu => ?_⟩
          · simpa [World.moved, hmove, lastPut, putWord, hv] using h.slot
          · show B.sem ((M.fed B).move (.put i v) w.dev).dev = false
            rw [hmove]
            exact h.drained hd
          · show 0 < n ∧ n ≤ ((M.fed B).move (.put i v) w.dev).count ∧ _
            rw [hmove]
            exact h.woken n u hu
      | true =>
          have hmove : (M.fed B).move (.put i v) w.dev
              = w.dev.stored i v hv := by
            simp only [Machine.fed, hv, dite_true]
          refine ⟨?_, fun hd => ?_, fun n u hu => ?_⟩
          · simp [World.moved, hmove, lastPut, putWord, hv, Mail.stored]
          · show B.sem ((M.fed B).move (.put i v) w.dev).dev = false
            rw [hmove]
            exact (hB.put v w.dev.dev).trans (h.drained hd)
          · show 0 < n ∧ n ≤ ((M.fed B).move (.put i v) w.dev).count ∧ _
            rw [hmove]
            obtain ⟨hpos, hle, hs⟩ := h.woken n u hu
            exact ⟨hpos, Nat.le_succ_of_le hle, hs⟩
  | give i =>
      obtain ⟨f, hf⟩ := Option.isSome_iff_exists.mp hcan
      have hword : wakeWord (.env w.st w.dev (.give i) :
          Event σ (Mail B ι) (Post A ι V) S)
          = if B.sem w.dev.dev then none else some (some f) := by
        simp only [wakeWord, hf]
      -- given to a semaphore that is available, a give does not wake
      cases hs : B.sem w.dev.dev with
      | true =>
          have hrest : ((w.moved (M.fed B) (.give i)).log.findSome? wakeWord)
              = w.log.findSome? wakeWord := by
            simp only [World.moved, List.findSome?_cons, hword, hs, if_true]
          refine ⟨h.slot, fun hd => ?_, fun n v hv => h.woken n v ?_⟩
          · rw [h.drained (hrest.symm.trans hd)] at hs
            cases hs
          · exact hrest.symm.trans hv
      | false =>
          have hrest : ((w.moved (M.fed B) (.give i)).log.findSome? wakeWord)
              = some (some f) := by
            simp only [World.moved, List.findSome?_cons, hword, hs,
              Bool.false_eq_true, if_false]
          refine ⟨h.slot, fun hd => ?_, fun n v hv => ?_⟩
          · cases hrest.symm.trans hd
          · cases hrest.symm.trans hv
            exact w.dev.due_ok i n v hf

/-- So does every call of the owner. -/
theorem Kept.called (hB : B.Fits M) {v₀ : Option V}
    {w : World σ (Mail B ι) (Post A ι V) S} (h : Kept v₀ w)
    (o : S.Op) (r : S.Ret o) : Kept v₀ (w.called (M.fed B) o r) := by
  have hdev : ((M.fed B).effect o r w.dev).dev = M.effect o r w.dev.dev := by
    simp only [Machine.fed]
    split <;> rfl
  have hcount : ((M.fed B).effect o r w.dev).count = w.dev.count := by
    simp only [Machine.fed]
    split <;> rfl
  refine ⟨?_, fun hd => ?_, fun n v hv => ?_⟩
  · show ((M.fed B).effect o r w.dev).slot = _
    -- the owner may clear the slot, and nothing else puts there
    cases hc : B.clears o with
    | true =>
        simp [Machine.fed, World.called, hc, Mail.cleared, lastPut, putWord]
    | false =>
        simpa [Machine.fed, World.called, hc, Mail.withDev, lastPut, putWord]
          using h.slot
  · show B.sem ((M.fed B).effect o r w.dev).dev = false
    rw [hdev]
    -- a drain makes the last word a reset
    cases hdr : B.drains o r with
    | true => exact hB.drains o r _ hdr
    | false =>
        rw [hB.keeps o r _ hdr]
        refine h.drained ?_
        simpa [World.called, wakeWord, hdr] using hd
  · show 0 < n ∧ n ≤ ((M.fed B).effect o r w.dev).count ∧ _
    rw [hcount]
    cases hdr : B.drains o r with
    | true => simp [World.called, wakeWord, hdr] at hv
    | false =>
        refine h.woken n v ?_
        simpa [World.called, wakeWord, hdr] using hv

/-- The record is an invariant of every owner. -/
theorem kept_frame (hB : B.Fits M) (v₀ : Option V) :
    Frame (M.fed B) Free (fun _ => True)
      (Kept (σ := σ) (B := B) (ι := ι) v₀) (fun _ => True)
      fun _ _ => True where
  stable := fun _ _ h hcan _ => h.moved hB hcan
  calls := fun _ o r _ h _ _ => h.called hB o r
  writes := fun _ _ _ h => ⟨h.slot, h.drained, h.woken⟩
  gives := fun _ _ => trivial

end record

end Proc
