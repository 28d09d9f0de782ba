/-
One exchange with the Hologram socket under segmentation (hologram.c).

TCP keeps neither writes nor messages together: the stack may take part of
what `send` is given, and the reply may come in any pieces. The code sends
once and looks only at what one `recv` hands over, so its verdict is that
of the first piece.
-/
import GpsTracker.Run.Script
import Mathlib.Algebra.GroupWithZero.Nat

namespace GpsTracker

open Proc

variable {cfg : Config}

-- ================================================================= statements

/-- The acknowledgement. -/
def ack : Text := "[0,0]".toList

/-- How much of the envelope the stack took. -/
def accepted : Ev → Nat
  | .call _ _ (.sendSocket _) sent => sent.toNat
  | _ => 0

/-- How much of it was handed to the socket in all. -/
def handed (l : Trace) : Nat := (l.map accepted).sum

/-- What `recv` has handed over, in order. -/
def received : Trace → Text
  | [] => []
  | .call _ _ (.recv _) r :: l =>
      received l ++ (if r.1 > 0 then r.2 else [])
  | _ :: l => received l

/-- An exchange with the record `l` that returned `r` was right about the
reply stream: 0 if and only if the whole envelope was handed over and the
stream has the acknowledgement. -/
def RightVerdict (envelope stream : Text) (l : Trace) (r : Int) : Prop :=
  r = 0 ↔ handed l = envelope.length ∧ ack <:+: stream

/-- The acknowledgement is there, but not within what `recv` handed over:
it is cut by the end of the first piece, or behind it. -/
def LateAck (envelope stream : Text) (l : Trace) : Prop :=
  handed l = envelope.length ∧ ack <:+: stream ∧ ¬ack <:+: cstr (received l)

/-- Part of the envelope was taken, and acknowledged. -/
def ShortSend (envelope : Text) (l : Trace) : Prop :=
  handed l ≠ envelope.length ∧ ack <:+: cstr (received l)

-- =================================================================== strstr

/-- `strstr` finds what is there. -/
theorem contains_iff {pat : Text} :
    ∀ {text : Text}, Hologram.contains pat text = true ↔ pat <:+: text := by
  intro text
  induction text with
  | nil =>
      rw [Hologram.contains, List.isEmpty_iff, List.infix_nil]
  | cons c text ih =>
      rw [Hologram.contains, Bool.or_eq_true, ih, List.isPrefixOf_iff_prefix,
        List.infix_cons_iff]

/-- What a C reader sees of a buffer is its head. -/
theorem cstr_heads (buf : Text) : cstr buf <+: buf :=
  List.takeWhile_prefix _

-- ================================================================ the exchange

/-- `recv` has handed nothing over yet. -/
def Unreplied (l : Trace) (_ : Dev) : Prop := received l = []

/-- `r` is the verdict on what it has handed over. -/
def Replied (r : Int) (l : Trace) (_ : Dev) : Prop :=
  r = 0 ↔ ack <:+: cstr (received l)

/-- Nothing received holds no acknowledgement. -/
theorem ack_not_nil : ¬ack <:+: cstr [] := by
  rintro ⟨a, b, h⟩
  cases a <;> cases h

/-- Without a reply every verdict but 0 is right. -/
theorem Unreplied.fails {l : Trace} {d : Dev} (h : Unreplied l d) {r : Int}
    (hr : r ≠ 0) : Replied r l d := by
  unfold Replied
  rw [h]
  exact ⟨fun h0 => absurd h0 hr, fun ha => absurd ha ack_not_nil⟩

variable {l₀ : Trace}

/-- Replies are calls of main: no move makes one, -/
theorem unreplied_stable :
    Stable (device cfg) (Since l₀ fun _ => True) (After l₀ Unreplied) :=
  After.stable fun _ _ _ _ h _ _ => h

/-- or changes what one was. -/
theorem replied_stable (r : Int) :
    Stable (device cfg) (Since l₀ fun _ => True) (After l₀ (Replied r)) :=
  After.stable fun _ _ _ _ h _ _ => h

/-- The verdict is on the piece that the one `recv` hands over, however
much `send` took. -/
theorem exchange_replies (envelope : Text) :
    Triple (device cfg) (Since l₀ fun _ => True) (fun _ => True)
      (After l₀ Unreplied) (Hologram.exchange envelope)
      fun r => After l₀ (Replied r) := by
  have hsend : Triple (device cfg) (Since l₀ fun _ => True) (fun _ => True)
      (After l₀ Unreplied) (call (.sendSocket envelope))
      fun _ => After l₀ Unreplied :=
    After.op unreplied_stable fun _ _ _ _ h _ _ => h
  -- nothing was received before the one `recv`, so its piece is all there is
  have hrecv : ∀ len, Triple (device cfg) (Since l₀ fun _ => True)
      (fun _ => True) (After l₀ Unreplied) (call (.recv len))
      fun r => After l₀ fun l _ =>
        received l = if r.1 > 0 then r.2 else [] := by
    intro len
    refine After.op unreplied_stable fun l s d r h _ _ => ?_
    show received l ++ (if r.1 > 0 then r.2 else []) = _
    rw [h, List.nil_append]
  refine hsend.bind fun sent => Triple.ite (fun hneg => ?_) fun _ => ?_
  · refine Triple.ret fun w h => ?_
    obtain ⟨l, hl, hu⟩ := h
    exact ⟨l, hl, hu.fails (Int.ne_of_lt hneg)⟩
  · refine (hrecv _).bind fun r => ?_
    obtain ⟨rx, reply⟩ := r
    refine Triple.ite (fun hc => Triple.ret fun w h => ?_)
      fun hc => Triple.ret fun w h => ?_
    · obtain ⟨l, hl, hgot⟩ := h
      rw [Bool.and_eq_true, decide_eq_true_eq] at hc
      rw [if_pos hc.1] at hgot
      refine ⟨l, hl, fun _ => ?_, fun _ => rfl⟩
      rw [hgot]
      exact contains_iff.mp hc.2
    · obtain ⟨l, hl, hgot⟩ := h
      refine ⟨l, hl, nofun, fun ha => absurd ?_ hc⟩
      -- an acknowledgement in what was received would have been found
      by_cases hrx : rx > 0
      · rw [hgot, if_pos hrx] at ha
        rw [Bool.and_eq_true, decide_eq_true_eq]
        exact ⟨hrx, contains_iff.mpr ha⟩
      · rw [hgot, if_neg hrx] at ha
        exact absurd ha ack_not_nil

/-- So is what `socket_send_envelope` returns. -/
theorem socketSend_replies (envelope : Text) :
    Triple (device cfg) (Since l₀ fun _ => True) (fun _ => True)
      (After l₀ Unreplied) (Hologram.socketSendEnvelope envelope)
      fun r => After l₀ (Replied r) := by
  have hlib : ∀ f, Triple (device cfg) (Since l₀ fun _ => True)
      (fun _ => True) (After l₀ Unreplied) (call (.lib f))
      fun _ => After l₀ Unreplied := fun f =>
    After.op unreplied_stable fun _ _ _ _ h _ _ => h
  have hfail : ∀ r : Int, r ≠ 0 → ∀ w, After l₀ Unreplied w →
      After l₀ (Replied r) w := by
    rintro r hr w ⟨l, hl, hu⟩
    exact ⟨l, hl, hu.fails hr⟩
  have hclose : ∀ r : Int, Triple (device cfg) (Since l₀ fun _ => True)
      (fun _ => True) (After l₀ (Replied r)) (do
        let _ ← call (.lib .close)
        pure r : P Int) fun r => After l₀ (Replied r) := fun r =>
    Triple.bind (R := fun _ => After l₀ (Replied r))
      (After.op (replied_stable r) fun _ _ _ _ h _ _ => h)
      fun _ => Triple.ret fun _ h => h
  refine (hlib _).bind fun err => Triple.ite
    (fun _ => Triple.ret (hfail _ (by decide))) fun _ => ?_
  refine (hlib _).bind fun fd => Triple.ite
    (fun hfd => Triple.ret (hfail _ (Int.ne_of_lt hfd))) fun _ => ?_
  refine (hlib _).bind fun err => Triple.ite
    (fun herr => (hclose err).pre (hfail err herr)) fun _ => ?_
  exact (hlib _).bind fun _ => (hlib _).bind fun _ =>
    (exchange_replies envelope).bind hclose

-- ===================================================================== the law

/-- However writes and replies are cut, the verdict is right if and only if
the acknowledgement does not come late, and is not one of a part of the
envelope. -/
theorem verdict_iff {envelope stream : Text} {w w' : Tracker} {r : Int}
    {l : Trace}
    (hr : Reach (device cfg) (Hologram.socketSendEnvelope envelope) w
      (.ret r, w'))
    (hl : w'.log = l ++ w.log) (hstream : received l <+: stream) :
    RightVerdict envelope stream l r ↔
      ¬LateAck envelope stream l ∧ ¬ShortSend envelope l := by
  have hG : Always (Since w.log fun _ => True) w'.log := by
    rw [hl]
    exact always_since fun _ _ => trivial
  obtain ⟨l', hl', h⟩ := (@socketSend_replies cfg _ envelope).result
    (w := w) ⟨[], rfl, rfl⟩ trivial hr hG
  have hverdict : r = 0 ↔ ack <:+: cstr (received l) := by
    rwa [← List.append_cancel_right (hl.symm.trans hl')] at h
  have hseen : ack <:+: cstr (received l) → ack <:+: stream := fun ha =>
    ha.trans ((cstr_heads _).trans hstream).isInfix
  unfold RightVerdict LateAck ShortSend
  rw [hverdict]
  constructor
  · intro hv
    exact ⟨fun hlate => hlate.2.2 (hv.mpr ⟨hlate.1, hlate.2.1⟩),
      fun hshort => hshort.1 (hv.mp hshort.2).1⟩
  · rintro ⟨hlate, hshort⟩
    constructor
    · intro ha
      exact ⟨Decidable.not_not.mp fun hne => hshort ⟨hne, ha⟩, hseen ha⟩
    · rintro ⟨hwhole, hs⟩
      by_cases ha : ack <:+: cstr (received l)
      · exact ha
      · exact absurd ⟨hwhole, hs, ha⟩ hlate

/-- A stack that takes `sent` bytes, and a reply of which the first piece is
`piece`. -/
def segmented (sent : Nat) (piece : Text) : Script Statics Dev Move Calls :=
  fun w o =>
    match o with
    | .sendSocket _ => ([], (sent : Int))
    | .recv _ => ([], ((piece.length : Int), piece))
    | o => calm w o

/-- The smallest envelope. -/
def bareEnvelope : Text := "\x7b\x7d\n\n".toList

/-- An exchange with it, run to its end. -/
def playExchange (sent : Nat) (piece : Text) : P Int × Tracker :=
  play (device {}) (segmented sent piece) 20
    (Hologram.socketSendEnvelope bareEnvelope) (start {})

/-- The sample exchange is a run. -/
theorem playExchange_reach (sent : Nat) (piece : Text) :
    Reach (device {}) (Hologram.socketSendEnvelope bareEnvelope)
      (start {}) (playExchange sent piece) := play_reach .init

/-- A whole envelope, and a reply in one piece. -/
theorem verdict_iff_whole :
    RightVerdict bareEnvelope ack (playExchange 4 ack).2.log 0 ↔
      ¬LateAck bareEnvelope ack (playExchange 4 ack).2.log ∧
      ¬ShortSend bareEnvelope (playExchange 4 ack).2.log :=
  verdict_iff (playExchange_reach 4 ack) (List.append_nil _).symm
    (by decide)

/-- A whole envelope, and a reply in two. -/
theorem ack_split :
    ∃ envelope stream w w' r l,
      Reach (device {}) (Hologram.socketSendEnvelope envelope) w (.ret r, w') ∧
      w'.log = l ++ w.log ∧ received l <+: stream ∧
      ¬RightVerdict envelope stream l r := by
  refine ⟨bareEnvelope, ack, start {},
    (playExchange 4 "[0,".toList).2, - EIO, (playExchange 4 "[0,".toList).2.log,
    playExchange_reach 4 "[0,".toList, (List.append_nil _).symm, by decide, ?_⟩
  intro hv
  exact absurd (hv.mpr ⟨by decide, List.infix_refl _⟩) (by decide)

end GpsTracker
