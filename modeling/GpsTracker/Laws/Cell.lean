/-
The serving cell is what the modem says (agnss.c).

`serving_cell_info_get` asks three questions into one buffer and splits
the operator in place after its third character. An operator of three
characters or more is split rightly whatever the buffer held. A shorter
one ends before the place of the split, and the network code is read from
what an earlier answer, or nobody, left there.
-/
import GpsTracker.Run.Script

namespace GpsTracker

open Proc

-- ================================================================ C strings

/-- The text of a C string. -/
abbrev NulFree (text : Text) : Prop := NUL ∉ text

/-- A C string ends at its first NUL, whatever stands behind it. -/
theorem cstr_append {text rest : Text} (h : NulFree text) :
    cstr (text ++ NUL :: rest) = text := by
  have hall : ∀ c ∈ text, decide (c ≠ NUL) = true := by
    intro c hc
    exact decide_eq_true fun hn => h (hn ▸ hc)
  unfold cstr
  rw [List.takeWhile_append_of_pos hall]
  simp

/-- No NUL gets into a text by cutting it short, -/
theorem NulFree.take {text : Text} (h : NulFree text) (n : Nat) :
    NulFree (text.take n) := fun hn => h (List.mem_of_mem_take hn)

/-- nor by leaving out its start. -/
theorem NulFree.drop {text : Text} (h : NulFree text) (n : Nat) :
    NulFree (text.drop n) := fun hn => h (List.mem_of_mem_drop hn)

variable {buf text : Text}

/-- What was copied into the buffer is what a C reader finds there. -/
theorem strPut_cstr (h : NulFree text) : cstr (strPut buf text) = text :=
  cstr_append h

/-- What stands from the fourth character on: the text's own rest. -/
theorem strPut_rest (h : NulFree text) (hlen : 3 ≤ text.length) :
    cstr ((strPut buf text).drop 3) = text.drop 3 := by
  unfold strPut
  rw [List.drop_append_of_le_length hlen]
  exact cstr_append (h.drop 3)

/-- Or what stood there before. -/
theorem strPut_leaves (hlen : text.length < 3) :
    (strPut buf text).drop 3 = buf.drop 3 := by
  unfold strPut
  rw [List.drop_append, List.drop_of_length_le (by omega), List.nil_append]
  obtain ⟨k, hk⟩ : ∃ k, 3 - text.length = k + 1 := ⟨2 - text.length, by omega⟩
  rw [hk, List.drop_succ_cons, List.drop_drop]
  congr 1
  omega

/-- Ended after its third character, the text is its first three. -/
theorem strPut_ended (h : NulFree text) :
    cstr ((strPut buf text).set 3 NUL) = text.take 3 := by
  unfold strPut
  rcases Nat.lt_or_ge text.length 3 with hlen | hlen
  · rw [List.take_of_length_le (by omega), List.set_append_right _ _ (by omega)]
    obtain ⟨k, hk⟩ : ∃ k, 3 - text.length = k + 1 :=
      ⟨2 - text.length, by omega⟩
    rw [hk, List.set_cons_succ]
    exact cstr_append h
  · have hthree : (text.take 3).length = 3 := List.length_take_of_le hlen
    have hsplit : text ++ NUL :: buf.drop (text.length + 1)
        = text.take 3 ++ (text.drop 3 ++ NUL :: buf.drop (text.length + 1)) := by
      rw [← List.append_assoc, List.take_append_drop]
    rw [hsplit, List.set_append_right _ _ (by omega), hthree, Nat.sub_self]
    cases text.drop 3 with
    | nil => exact cstr_append (h.take 3)
    | cons c cs => exact cstr_append (h.take 3)

-- ==================================================================== cells

/-- The cell as a function of the three answers alone. -/
def cellOf (cellid areaCode operator : Text) : LteCell :=
  { id := strtol 16 cellid
    tac := strtol 16 areaCode
    mcc := strtol 10 (operator.take 3)
    mnc := strtol 10 (operator.drop 3) }

/-- What the first two answers leave from the fourth character on. -/
def leftover (resp cellid areaCode : Text) : Text :=
  if 3 ≤ areaCode.length then areaCode.drop 3
  else if 3 ≤ cellid.length then cellid.drop 3
  else cstr (resp.drop 3)

variable {resp cellid areaCode operator : Text}

/-- Three characters into an operator shorter than that, the reader is in what
the two earlier responses left in the buffer. -/
theorem leftover_stands (hc : NulFree cellid) (ha : NulFree areaCode) :
    cstr ((strPut (strPut resp cellid) areaCode).drop 3)
      = leftover resp cellid areaCode := by
  unfold leftover
  split
  next hlen => exact strPut_rest ha hlen
  next hlen =>
    rw [strPut_leaves (by omega)]
    split
    next hlen' => exact strPut_rest hc hlen'
    next hlen' => rw [strPut_leaves (by omega)]

/-- The network code is the operator's where it reaches the split, and
what was left there where it does not. -/
theorem cellOfResponses_eq (hc : NulFree cellid) (ha : NulFree areaCode)
    (ho : NulFree operator) :
    cellOfResponses resp cellid areaCode operator
      = { cellOf cellid areaCode operator with
          mnc := if 3 ≤ operator.length then strtol 10 (operator.drop 3)
            else strtol 10 (leftover resp cellid areaCode) } := by
  have hmnc : cstr ((strPut (strPut (strPut resp cellid) areaCode)
      operator).drop 3) = if 3 ≤ operator.length then operator.drop 3
        else leftover resp cellid areaCode := by
    split
    next hlen => exact strPut_rest ho hlen
    next hlen => rw [strPut_leaves (by omega), leftover_stands hc ha]
  unfold cellOfResponses cellOf
  simp only [strPut_cstr hc, strPut_cstr ha, strPut_ended ho, hmnc]
  split <;> rfl

/-- The network code is right when the operator has its three digits of
country, or when what the buffer held behind a shorter one happens to read as
zero. -/
theorem cellOfResponses_iff (hc : NulFree cellid) (ha : NulFree areaCode)
    (ho : NulFree operator) :
    cellOfResponses resp cellid areaCode operator
        = cellOf cellid areaCode operator ↔
      3 ≤ operator.length ∨ strtol 10 (leftover resp cellid areaCode) = 0 := by
  rw [cellOfResponses_eq hc ha ho]
  by_cases hlen : 3 ≤ operator.length
  · rw [if_pos hlen]
    exact iff_of_true rfl (.inl hlen)
  · have hnone : strtol 10 (operator.drop 3) = 0 := by
      rw [List.drop_of_length_le (by omega)]
      rfl
    rw [if_neg hlen, or_iff_right hlen]
    constructor
    · intro h
      exact (congrArg LteCell.mnc h).trans hnone
    · intro h
      rw [h, ← hnone]
      rfl

-- ==================================================================== runs

/-- The buffer's first content and the modem's last answers. -/
structure Replies where
  resp : Text
  cellid : Text
  areaCode : Text
  operator : Text

def respWord : Ev → Option Text
  | .call _ _ .uninitialised r => some r
  | _ => none

def replyWord (i : ModemInfo) : Ev → Option Text
  | .call _ _ (.modemInfoString j) r => if j = i then some r.2 else none
  | _ => none

/-- The replies of a log. -/
def replies (l : Trace) : Replies :=
  { resp := latest respWord [] l
    cellid := latest (replyWord .cellid) [] l
    areaCode := latest (replyWord .areaCode) [] l
    operator := latest (replyWord .operator) [] l }

variable {cfg : Config}

/-- The replies are calls of main: nothing that the device does by itself
changes them. -/
theorem replies_stable (p : Replies → Prop) :
    Stable (device cfg) Free fun w => p (replies w.log) :=
  fun _ _ h _ _ => h

/-- `serving_cell_info_get` computes its cell from its replies. -/
theorem servingCellInfoGet_replies :
    Triple (device cfg) Free (fun _ => True) (fun _ => True)
      servingCellInfoGet fun cell w => ∀ c, cell = some c →
        c = cellOfResponses (replies w.log).resp (replies w.log).cellid
          (replies w.log).areaCode (replies w.log).operator := by
  refine Triple.bind (R := fun resp w => (replies w.log).resp = resp) ?_
    fun resp => ?_
  · exact Triple.op (replies_stable fun _ => True)
      fun w r _ _ _ => ⟨trivial, rfl⟩
  refine Triple.bind (R := fun r w => (replies w.log).resp = resp ∧
    (replies w.log).cellid = r.2) ?_ fun r => ?_
  · exact Triple.op (replies_stable fun ρ => ρ.resp = resp)
      fun w r h _ _ => ⟨trivial, h, rfl⟩
  obtain ⟨err, cellid⟩ := r
  refine Triple.ite (fun _ => Triple.ret fun w h c => nofun) fun _ => ?_
  refine Triple.bind (R := fun r w => (replies w.log).resp = resp ∧
    (replies w.log).cellid = cellid ∧ (replies w.log).areaCode = r.2) ?_
    fun r => ?_
  · exact Triple.op (replies_stable fun ρ => ρ.resp = resp ∧ ρ.cellid = cellid)
      fun w r h _ _ => ⟨trivial, h.1, h.2, rfl⟩
  obtain ⟨err, areaCode⟩ := r
  refine Triple.ite (fun _ => Triple.ret fun w h c => nofun) fun _ => ?_
  refine Triple.bind (R := fun r w => (replies w.log).resp = resp ∧
    (replies w.log).cellid = cellid ∧ (replies w.log).areaCode = areaCode ∧
    (replies w.log).operator = r.2) ?_ fun r => ?_
  · exact Triple.op (replies_stable fun ρ => ρ.resp = resp ∧
      ρ.cellid = cellid ∧ ρ.areaCode = areaCode)
      fun w r h _ _ => ⟨trivial, h.1, h.2.1, h.2.2, rfl⟩
  obtain ⟨err, operator⟩ := r
  refine Triple.ite (fun _ => Triple.ret fun w h c => nofun) fun _ =>
    Triple.ret fun w h c hc => ?_
  rw [h.1, h.2.1, h.2.2.1, h.2.2.2]
  exact (Option.some.inj hc).symm

-- ================================================================= the law

/-- Two runs with the same answers in whatever buffers: both cells are the
answers' own exactly if the operator reaches the split or what was left
there reads as nothing in both. -/
theorem cell_told_iff {w₁ w₁' w₂ w₂' : Tracker} {c₁ c₂ : LteCell}
    (hr₁ : Reach (device cfg) servingCellInfoGet w₁ (.ret (some c₁), w₁'))
    (hr₂ : Reach (device cfg) servingCellInfoGet w₂ (.ret (some c₂), w₂'))
    (hcellid : NulFree cellid) (hareaCode : NulFree areaCode)
    (hoperator : NulFree operator)
    (h₁ : replies w₁'.log
      = ⟨(replies w₁'.log).resp, cellid, areaCode, operator⟩)
    (h₂ : replies w₂'.log
      = ⟨(replies w₂'.log).resp, cellid, areaCode, operator⟩) :
    c₁ = cellOf cellid areaCode operator ∧
        c₂ = cellOf cellid areaCode operator ↔
      3 ≤ operator.length ∨
        strtol 10 (leftover (replies w₁'.log).resp cellid areaCode) = 0 ∧
        strtol 10 (leftover (replies w₂'.log).resp cellid areaCode) = 0 := by
  have hcell : ∀ {w w' : Tracker} {c : LteCell},
      Reach (device cfg) servingCellInfoGet w (.ret (some c), w') →
      replies w'.log = ⟨(replies w'.log).resp, cellid, areaCode, operator⟩ →
      (c = cellOf cellid areaCode operator ↔ 3 ≤ operator.length ∨
        strtol 10 (leftover (replies w'.log).resp cellid areaCode) = 0) := by
    intro w w' c hr h
    have hc := servingCellInfoGet_replies.result (w := w) trivial trivial hr
      (always_free _) c rfl
    rw [← cellOfResponses_iff hcellid hareaCode hoperator, hc, h]
  rw [hcell hr₁ h₁, hcell hr₂ h₂, ← or_and_left]

/-- A modem that answers `operator` into a buffer that holds `resp`. -/
def answering (resp operator : Text) : Script Statics Dev Move Calls :=
  fun w o =>
    match o with
    | .uninitialised => ([], resp)
    | .modemInfoString .cellid => ([], ((0 : Int), "01A2B3C4".toList))
    | .modemInfoString .areaCode => ([], ((0 : Int), "0021".toList))
    | .modemInfoString .operator => ([], ((0 : Int), operator))
    | o => calm w o

/-- `serving_cell_info_get` against it. -/
def playCell (resp operator : Text) : P (Option LteCell) × Tracker :=
  play (device {}) (answering resp operator) 5 servingCellInfoGet (start {})

/-- The cell it gives. -/
def playedCell (resp operator : Text) : LteCell :=
  cellOfResponses resp "01A2B3C4".toList "0021".toList operator

/-- The sample run is a run, -/
theorem playCell_reach (resp operator : Text) :
    Reach (device {}) servingCellInfoGet (start {})
      (.ret (some (playedCell resp operator)), (playCell resp operator).2) :=
  (play_reach .init : Reach (device {}) servingCellInfoGet (start {})
    (playCell resp operator))

/-- and its replies are the ones it was given. -/
theorem playCell_replies (resp operator : Text) :
    replies (playCell resp operator).2.log
      = ⟨resp, "01A2B3C4".toList, "0021".toList, operator⟩ := rfl

/-- A full operator gives the same cell over any two buffers. -/
theorem cell_told_iff_full :
    playedCell [] "26201".toList
        = cellOf "01A2B3C4".toList "0021".toList "26201".toList ∧
      playedCell "0007".toList "26201".toList
        = cellOf "01A2B3C4".toList "0021".toList "26201".toList :=
  (cell_told_iff (playCell_reach [] "26201".toList)
    (playCell_reach "0007".toList "26201".toList) (by decide) (by decide)
    (by decide) (playCell_replies _ _) (playCell_replies _ _)).mpr
    (.inl (by decide))

/-- Without an operator the area code's fourth digit becomes the network
code. -/
theorem cell_leftover :
    ∃ c w', Reach (device {}) servingCellInfoGet (start {})
        (.ret (some c), w') ∧
      replies w'.log = ⟨[], "01A2B3C4".toList, "0021".toList, []⟩ ∧
      c.mnc = 1 ∧
      c ≠ cellOf "01A2B3C4".toList "0021".toList [] :=
  ⟨playedCell [] [], _, playCell_reach [] [], playCell_replies [] [],
    by decide, by decide⟩

end GpsTracker
