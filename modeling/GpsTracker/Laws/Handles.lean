/-
No socket is leaked (hologram.c).

The tracker sends for months, and the stack has a handful of descriptors.
Whatever each call of an exchange answers, `socket_send_envelope` closes the
socket it opened and frees the address list it was given, uses neither
before it has it nor after it gave it back, and so leaves the stack as it
found it, one exchange after another.

The exchange with its handles is the one of the transport with every call
answered by the tracker's own (`stack_exchange`).
-/
import GpsTracker.Lib.Handler
import GpsTracker.Model.Sockets

namespace GpsTracker

open Proc

namespace Sockets

variable {δ : Type}

-- ================================================================= statements

/-- A call uses what is held when it is made. -/
def Proper (view : δ → Handles) :
    Event Unit δ Empty Functions → Log Unit δ Empty Functions → Prop
  | .call _ d o _, _ => Uses o (view d)
  | .env .., _ => True

-- ================================================================= the calls

variable {M : Machine δ Empty Functions} {view : δ → Handles}

/-- The record is proper, and `H` is held. -/
def Holding (view : δ → Handles) (H : Handles)
    (w : World Unit δ Empty Functions) : Prop :=
  Always (Proper view) w.log ∧ view w.dev = H

/-- The promise at every step. -/
def AllProper (view : δ → Handles) (w : World Unit δ Empty Functions) :
    Prop := Always (Proper view) w.log

/-- One call, by its answer. -/
theorem call_holds (hM : Documented M view) {o : Op} {H : Handles}
    (huses : Uses o H) :
    Triple M Free (AllProper view) (Holding view H) (call o)
      fun r w => Holding view (step o r H) w ∧ allows o r H := by
  have hstable : Stable M Free (Holding view H) := fun _ a => nomatch a
  refine Triple.op hstable fun w r h hok _ => ?_
  obtain ⟨hproper, rfl⟩ := h
  have hrecord : AllProper view (w.called M o r) := ⟨huses, hproper⟩
  exact ⟨hrecord, ⟨hrecord, hM.effects o r w.dev hok⟩,
    hM.answers o r w.dev hok⟩

/-- A call that neither makes a handle nor gives one back. -/
theorem call_keeps (hM : Documented M view) {o : Op} {H : Handles}
    (huses : Uses o H) (hstep : ∀ r, step o r H = H) :
    Triple M Free (AllProper view) (Holding view H) (call o)
      fun _ => Holding view H :=
  (call_holds hM huses).post fun r w h => by
    rw [hstep r] at h
    exact h.1

@[simp] theorem setSocket_sockets (H : Handles) (fd : Int) (b : Bool) :
    (H.setSocket fd b).sockets fd = b := if_pos rfl

@[simp] theorem setList_lists (H : Handles) (p : Nat) (b : Bool) :
    (H.setList p b).lists p = b := if_pos rfl

/-- A socket opened and closed again. -/
theorem socket_closed {H : Handles} {fd : Int} (h : H.sockets fd = false) :
    (H.setSocket fd true).setSocket fd false = H := by
  obtain ⟨sockets, lists⟩ := H
  simp only [Handles.setSocket, Handles.mk.injEq, and_true]
  funext i
  by_cases hi : i = fd
  · rw [if_pos hi, hi]
    exact h.symm
  · rw [if_neg hi, if_neg hi]

/-- A list made and freed again. -/
theorem list_freed {H : Handles} {p : Nat} (h : H.lists p = false) :
    (H.setList p true).setList p false = H := by
  obtain ⟨sockets, lists⟩ := H
  simp only [Handles.setList, Handles.mk.injEq, true_and]
  funext i
  by_cases hi : i = p
  · rw [if_pos hi, hi]
    exact h.symm
  · rw [if_neg hi, if_neg hi]

-- ================================================================ the exchange

variable {H : Handles} {fd : Int} {res : Nat}

theorem exchange_holds (hM : Documented M view)
    (hopen : H.sockets fd = true) (envelope : Text) :
    Triple M Free (AllProper view) (Holding view H) (exchange fd envelope)
      fun _ => Holding view H := by
  have hsend := call_keeps hM (o := .send fd envelope) (H := H) hopen
    fun _ => rfl
  have hrecv := call_keeps hM (o := .recv fd (Hologram.REPLY_MAX - 1))
    (H := H) hopen fun _ => rfl
  exact hsend.bind fun sent => Triple.ite (fun _ => Triple.ret fun w h => h)
    fun _ => hrecv.bind fun r => Triple.ite
      (fun _ => Triple.ret fun w h => h) fun _ => Triple.ret fun w h => h

/-- The socket is closed, whatever came of the exchange over it. -/
theorem overSocket_closes (hM : Documented M view)
    (hnew : H.sockets fd = false) (hlive : H.lists res = true)
    (envelope : Text) :
    Triple M Free (AllProper view) (Holding view (H.setSocket fd true))
      (overSocket fd res envelope) fun _ => Holding view H := by
  have hopen : (H.setSocket fd true).sockets fd = true :=
    setSocket_sockets H fd true
  have hconnect := call_keeps hM (o := .connect fd res)
    (H := H.setSocket fd true) ⟨hopen, hlive⟩ fun _ => rfl
  have hoption := call_keeps hM (o := .setsockopt fd)
    (H := H.setSocket fd true) hopen fun _ => rfl
  have hclose : ∀ err : Int, Triple M Free (AllProper view)
      (Holding view (H.setSocket fd true)) (do
        let _ ← call (.close fd)
        pure err : Prog Unit Functions Int) fun _ => Holding view H :=
    fun err => (call_holds hM (o := .close fd) hopen).bind fun r =>
      Triple.ret fun w h => by
        have hclosed := h.1
        rwa [show step (.close fd) r (H.setSocket fd true) = H from
          socket_closed hnew] at hclosed
  refine hconnect.bind fun err => Triple.ite (fun _ => hclose err)
    fun _ => ?_
  exact hoption.bind fun _ => hoption.bind fun _ =>
    (exchange_holds hM hopen envelope).bind fun err => hclose err

/-- An exchange leaves the handles as they were. -/
theorem envelope_holds (hM : Documented M view) (envelope : Text) :
    Triple M Free (AllProper view) (Holding view H)
      (socketSendEnvelope envelope) fun _ => Holding view H := by
  refine (call_holds hM (o := .getaddrinfo) trivial).bind fun r => ?_
  obtain ⟨err, res⟩ := r
  refine Triple.pure_pre fun hallows => Triple.ite (fun herr => ?_)
    fun _ => ?_
  -- a failed look-up hands out no list
  · cases res with
    | none => exact Triple.ret fun w h => h
    | some res => exact absurd (hallows res rfl).1 herr
  · cases res with
    | none => exact Triple.ret fun w h => h
    | some res =>
        obtain ⟨-, hnew⟩ := hallows res rfl
        have hlive : (H.setList res true).lists res = true :=
          setList_lists H res true
        -- from here on every return frees the list
        have hfree : ∀ err : Int, Triple M Free (AllProper view)
            (Holding view (H.setList res true)) (do
              call (.freeaddrinfo res)
              pure err : Prog Unit Functions Int) fun _ => Holding view H :=
          fun err => (call_holds hM (o := .freeaddrinfo res) hlive).bind
            fun r => Triple.ret fun w h => by
              have hfreed := h.1
              rwa [show step (.freeaddrinfo res) r (H.setList res true) = H
                from list_freed hnew] at hfreed
        refine (call_holds hM (o := .socket) (H := H.setList res true)
          trivial).bind fun fd => Triple.pure_pre fun hfd => ?_
        refine Triple.ite (fun hneg => ?_) fun hpos => ?_
        · refine (hfree fd).pre fun w h => ?_
          rwa [show step .socket fd (H.setList res true) = H.setList res true
            from if_neg (Int.not_le.mpr hneg)] at h
        -- a socket: it is closed before the list is freed
        · have hnonneg : 0 ≤ fd := Int.not_lt.mp hpos
          refine Triple.pre (P := Holding view
            ((H.setList res true).setSocket fd true)) ?_ fun w h => ?_
          · exact (overSocket_closes hM (hfd hnonneg) hlive envelope).bind
              fun err => hfree err
          · rwa [show step .socket fd (H.setList res true)
              = (H.setList res true).setSocket fd true from
              if_pos hnonneg] at h

theorem sendEach_holds (hM : Documented M view) :
    ∀ envelopes, Triple M Free (AllProper view) (Holding view H)
      (sendEach envelopes) fun _ => Holding view H := by
  intro envelopes
  induction envelopes with
  | nil => exact Triple.ret fun w h => h
  | cons envelope envelopes ih =>
      exact (envelope_holds hM envelope).bind fun err => ih.bind fun errs =>
        Triple.ret fun w h => h

-- =================================================================== the law

/-- However many envelopes are sent and whatever the stack answers, every
call uses an open socket and a list that was not freed, and in the end both
are as they were. -/
theorem handles_returned (hM : Documented M view) {envelopes : List Text}
    {w : World Unit δ Empty Functions} (hw : w.log = [])
    {c : Prog Unit Functions (List Int) × World Unit δ Empty Functions}
    (hr : Reach M (sendEach envelopes) w c) :
    Always (Proper view) c.2.log ∧
      ∀ errs, c.1 = .ret errs → view c.2.dev = view w.dev := by
  have hboot : Holding view (view w.dev) w := by
    refine ⟨?_, rfl⟩
    rw [hw]
    trivial
  obtain ⟨hproper, hsafe⟩ := (sendEach_holds hM envelopes w hboot).reach
    hboot.1 hr (always_free c.2.log)
  refine ⟨hproper, fun errs herrs => ?_⟩
  rw [herrs] at hsafe
  exact hsafe.2

/-- The stack that does what is documented and nothing else. -/
def plainStack : Machine Handles Empty Functions where
  ok
    | .getaddrinfo, (err, res), H => res.all fun p => err == 0 && !H.lists p
    | .socket, fd, H => fd < 0 || !H.sockets fd
    | _, _, _ => true
  effect := step
  can := fun a _ => nomatch a
  move := fun a _ => nomatch a

theorem plainStack_documented : Documented plainStack id where
  answers o r H h := by
    cases o with
    | getaddrinfo =>
        rintro p hp
        obtain ⟨err, res⟩ := r
        obtain rfl : res = some p := hp
        simpa [plainStack] using h
    | socket =>
        intro hfd
        have hneg : ¬r < 0 := Int.not_lt.mpr hfd
        simpa [plainStack, hneg] using h
    | _ => trivial
  effects _ _ _ _ := rfl

/-- The backend takes the first envelope and is gone for the second. -/
def answering : Script Unit Handles Empty Functions :=
  fun w o =>
    match o with
    | .getaddrinfo => ([], (0, some 0))
    | .socket => ([], 3)
    | .connect .. => ([], if w.log.length < 5 then 0 else - EIO)
    | .send _ envelope => ([], envelope.length)
    | .recv .. => ([], (5, "[0,0]".toList))
    | .setsockopt _ | .close _ => ([], 0)
    | .freeaddrinfo _ => ([], ())

/-- Two envelopes, sent over a stack that holds nothing. -/
def playSends :
    Prog Unit Functions (List Int) × World Unit Handles Empty Functions :=
  play plainStack answering 40 (sendEach ["a".toList, "b".toList])
    ⟨(), ⟨fun _ => false, fun _ => false⟩, []⟩

/-- One is sent, one is not, and nothing is held. -/
theorem handles_returned_answered :
    playSends.1 = .ret [0, - EIO] ∧ Always (Proper id) playSends.2.log ∧
      playSends.2.dev = ⟨fun _ => false, fun _ => false⟩ := by
  have hreturns := handles_returned plainStack_documented rfl
    (show Reach plainStack _ _ playSends from play_reach .init)
  have hret : playSends.1 = .ret [0, - EIO] := rfl
  exact ⟨hret, hreturns.1, hreturns.2 _ hret⟩

-- ============================================================== the transport

/-- The tracker's own calls for those of the stack. -/
def stack : Proc.Handler Functions Statics Calls
  | .getaddrinfo => do
      let err ← GpsTracker.call (.lib .getaddrinfo)
      pure (err, if err = 0 then some 0 else none)
  | .socket => GpsTracker.call (.lib .socket)
  | .connect .. => GpsTracker.call (.lib .connect)
  | .setsockopt _ => GpsTracker.call (.lib .setsockopt)
  | .send _ envelope => GpsTracker.call (.sendSocket envelope)
  | .recv _ len => GpsTracker.call (.recv len)
  | .close _ => GpsTracker.call (.lib .close)
  | .freeaddrinfo _ => pure ()

theorem stack_sends (fd : Int) (envelope : Text) :
    (exchange fd envelope).handle stack = Hologram.exchange envelope := by
  simp only [exchange, Hologram.exchange, Prog.handle_bind, Prog.handle_ite,
    Prog.handle_pure]
  rfl

/-- From the open socket on. -/
theorem stack_closes (fd : Int) (res : Nat) (envelope : Text) :
    (overSocket fd res envelope).handle stack = (do
      let err ← GpsTracker.call (.lib .connect)
      let err ← if err ≠ 0 then pure err else do
        let _ ← GpsTracker.call (.lib .setsockopt)
        let _ ← GpsTracker.call (.lib .setsockopt)
        Hologram.exchange envelope
      let _ ← GpsTracker.call (.lib .close)
      pure err : P Int) := by
  simp only [overSocket, Prog.handle_bind, Prog.handle_ite, Prog.handle_pure,
    stack_sends]
  rfl

/-- Over the tracker's own calls the exchange is that of the transport. -/
theorem stack_exchange (envelope : Text) :
    (socketSendEnvelope envelope).handle stack
      = Hologram.socketSendEnvelope envelope := by
  refine congrArg (Prog.call _) (funext fun err => ?_)
  by_cases herr : err = 0
  · subst herr
    refine congrArg (Prog.call _) (funext fun fd => ?_)
    by_cases hfd : fd < 0
    · simp only [Prog.bind, if_pos hfd]
      rfl
    · simp only [Prog.bind, if_neg hfd]
      -- The list is freed after the exchange, which the transport has no
      -- call for.
      rw [Prog.handle_bind, stack_closes]
      exact Prog.bind_pure _
  · show (if err ≠ 0 then _ else _ : Prog Unit Functions Int).handle stack
      = if err ≠ 0 then _ else _
    rw [if_pos herr, if_pos herr]
    rfl

end Sockets

end GpsTracker
