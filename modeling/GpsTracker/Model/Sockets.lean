/-
`socket_send_envelope` (hologram.c) handle by handle, over sockets as they
are documented.

The address list that `getaddrinfo` makes and the descriptor that `socket`
returns are handed from call to call, and given back by `freeaddrinfo` and
`close`. `Handles` is what a caller holds of them, and `Documented` that a
stack behaves so. Errors of a call are `-errno`.
-/
import GpsTracker.Lib.Safe
import GpsTracker.Model.Cloud

namespace GpsTracker

open Proc

namespace Sockets

-- ==================================================================== calls

/-- The functions that `socket_send_envelope` calls. -/
inductive Op
  | getaddrinfo
  | socket
  | connect (fd : Int) (res : Nat)
  | setsockopt (fd : Int)
  | send (fd : Int) (envelope : Text)
  | recv (fd : Int) (len : Nat)
  | close (fd : Int)
  | freeaddrinfo (res : Nat)

/-- What each call answers; `getaddrinfo` its error and the list, if it is
not NULL. -/
@[reducible] def Op.Ret : Op → Type
  | .getaddrinfo => Int × Option Nat
  | .recv .. => Int × Text
  | .freeaddrinfo _ => Unit
  | .socket | .connect .. | .setsockopt _ | .send .. | .close _ => Int

@[reducible] def Functions : Sig := ⟨Op, Op.Ret⟩

-- ================================================================== handles

/-- The descriptors that are open, and the address lists that were not
freed. -/
structure Handles where
  sockets : Int → Bool
  lists : Nat → Bool

namespace Handles

def setSocket (H : Handles) (fd : Int) (b : Bool) : Handles :=
  { H with sockets := fun i => if i = fd then b else H.sockets i }

def setList (H : Handles) (p : Nat) (b : Bool) : Handles :=
  { H with lists := fun i => if i = p then b else H.lists i }

end Handles

/-- The answers that are documented: a list or a descriptor is a new one,
and a failed `getaddrinfo` leaves the pointer alone. -/
def allows : (o : Op) → o.Ret → Handles → Prop
  | .getaddrinfo, (err, res), H =>
      ∀ p, res = some p → err = 0 ∧ H.lists p = false
  | .socket, fd, H => 0 ≤ fd → H.sockets fd = false
  | _, _, _ => True

/-- What an answered call does. -/
def step : (o : Op) → o.Ret → Handles → Handles
  | .getaddrinfo, (_, some p), H => H.setList p true
  | .socket, fd, H => if 0 ≤ fd then H.setSocket fd true else H
  | .close fd, _, H => H.setSocket fd false
  | .freeaddrinfo p, _, H => H.setList p false
  | _, _, H => H

/-- A call uses handles that are held. -/
def Uses : Op → Handles → Prop
  | .connect fd p, H => H.sockets fd = true ∧ H.lists p = true
  | .setsockopt fd, H | .send fd _, H | .recv fd _, H | .close fd, H =>
      H.sockets fd = true
  | .freeaddrinfo p, H => H.lists p = true
  | .getaddrinfo, _ | .socket, _ => True

/-- A stack that behaves as documented: `view` is what a caller holds of
it. -/
structure Documented {δ : Type} (M : Machine δ Empty Functions)
    (view : δ → Handles) : Prop where
  answers : ∀ o r d, M.ok o r d = true → allows o r (view d)
  effects : ∀ o r d, M.ok o r d = true →
    view (M.effect o r d) = step o r (view d)

-- ===================================================== socket_send_envelope

/-- A call of the stack. -/
def call (o : Op) : Prog Unit Functions o.Ret := Prog.op (S := Functions) o

/-- `socket_send_envelope`, from `send` to the verdict. -/
def exchange (fd : Int) (envelope : Text) : Prog Unit Functions Int := do
  let sent ← call (.send fd envelope)
  if sent < 0 then
    pure sent
  else
    let (rx, reply) ← call (.recv fd (Hologram.REPLY_MAX - 1))
    if rx > 0 && Hologram.contains "[0,0]".toList (cstr reply) then pure 0
    else pure (- EIO)

/-- `socket_send_envelope`, from the open socket to its `cleanup`. -/
def overSocket (fd : Int) (res : Nat) (envelope : Text) :
    Prog Unit Functions Int := do
  let err ← call (.connect fd res)
  let err ← if err ≠ 0 then pure err else do
    let _ ← call (.setsockopt fd)
    let _ ← call (.setsockopt fd)
    exchange fd envelope
  let _ ← call (.close fd)
  pure err

/-- `socket_send_envelope`. -/
def socketSendEnvelope (envelope : Text) : Prog Unit Functions Int := do
  let (err, res) ← call .getaddrinfo
  if err ≠ 0 then
    pure (- EIO)
  else
    match res with
    | none => pure (- EIO)
    | some res =>
        let fd ← call .socket
        let err ← if fd < 0 then pure fd else overSocket fd res envelope
        call (.freeaddrinfo res)
        pure err

/-- Envelopes sent one after another: what each exchange returned. -/
def sendEach : List Text → Prog Unit Functions (List Int)
  | [] => pure []
  | envelope :: envelopes => do
      let err ← socketSendEnvelope envelope
      let errs ← sendEach envelopes
      pure (err :: errs)

end Sockets

end GpsTracker
