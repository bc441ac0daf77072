import DwmIpc.Action

/-!
# Endpoints

An `Endpoint` is one end of a stream socket with its future laid out: what each
coming `receive` will find and how much each coming `send` will accept. A chunk
is handed out in pieces if less is asked for than it holds; an empty chunk, or
nothing left, is the end of the stream for that call. When the plan for sending
is used up, everything is accepted.
-/

namespace DwmIpc

/-- What a call that receives finds. -/
inductive Incoming where
  | chunk (bytes : Bytes)
  | fault (fault : Fault)
  deriving DecidableEq

/-- What a call that sends meets: room for so many bytes, or a fault. -/
inductive Outgoing where
  | room (bytes : Nat)
  | fault (fault : Fault)
  deriving DecidableEq

/-- One end of a stream socket. -/
structure Endpoint where
  incoming : List Incoming
  outgoing : List Outgoing
  connectFault : Option Fault
  closeFault : Option Fault
  deriving DecidableEq

/-- The bytes that a call offers. -/
structure Offer where
  bytes : Bytes
  deriving DecidableEq

/-- Where a number is wanted, an offer counts as many as its bytes are. -/
instance : Coe Offer Nat := ⟨fun offer => offer.bytes.length⟩

/-- A call on a socket: how many bytes were asked for; which were offered, and which of them
accepted. -/
inductive SocketCall where
  | connect (path : Text)
  | receive (asked : Nat)
  | send (offered : Offer) (accepted : Bytes)
  | close
  deriving DecidableEq

/-- What can be seen of an action on an endpoint. -/
inductive Notice where
  | call (call : SocketCall)
  | log (record : LogRecord)
  deriving DecidableEq

namespace Incoming

/-- How many bytes are still to come. -/
def bytesLeft (incoming : List Incoming) : Nat :=
  incoming.foldr (fun
    | chunk bytes, left => bytes.length + left
    | fault _, left => left) 0

/-- Bounds the calls that can still get something: one for each item, and one for each byte. -/
def backlog (incoming : List Incoming) : Nat :=
  incoming.length + bytesLeft incoming

/-- The answer of one call that asks for `asked` bytes, and what is left after it. -/
def receive (asked : Nat) : List Incoming → Incoming × List Incoming
  | [] => (chunk [], [])
  | fault f :: rest => (fault f, rest)
  | chunk bytes :: rest =>
    if (bytes.drop asked).isEmpty then (chunk bytes, rest)
    else (chunk (bytes.take asked), chunk (bytes.drop asked) :: rest)

theorem backlog_cons_chunk (bytes : Bytes) (rest : List Incoming) :
    backlog (chunk bytes :: rest) = backlog rest + bytes.length + 1 := by
  simp only [backlog, bytesLeft, List.length_cons, List.foldr_cons]; omega

theorem backlog_cons_fault (f : Fault) (rest : List Incoming) :
    backlog (fault f :: rest) = backlog rest + 1 := by
  simp only [backlog, bytesLeft, List.length_cons, List.foldr_cons]; omega

theorem receive_chunk (asked : Nat) (bytes : Bytes) (rest : List Incoming) :
    receive asked (chunk bytes :: rest) =
      if bytes.length ≤ asked then (chunk bytes, rest)
      else (chunk (bytes.take asked), chunk (bytes.drop asked) :: rest) := by
  simp only [receive, List.isEmpty_iff, List.drop_eq_nil_iff]

/-- A fault uses up an item. -/
theorem backlog_of_receive_fault {asked : Nat} {incoming rest : List Incoming} {f : Fault}
    (h : receive asked incoming = (fault f, rest)) : backlog rest < backlog incoming := by
  match incoming with
  | [] => simp [receive] at h
  | fault g :: more =>
    simp only [receive, Prod.mk.injEq] at h
    rw [backlog_cons_fault, h.2]; omega
  | chunk bytes :: more =>
    rw [receive_chunk] at h
    split at h <;> simp at h

/-- Bytes that arrive use up an item or themselves. -/
theorem backlog_of_receive_chunk {asked : Nat} {incoming rest : List Incoming} {got : Bytes}
    (h : receive asked incoming = (chunk got, rest)) (nonempty : got ≠ []) :
    backlog rest < backlog incoming := by
  match incoming with
  | [] =>
    simp only [receive, Prod.mk.injEq, chunk.injEq] at h
    exact absurd h.1.symm nonempty
  | fault g :: more => simp [receive] at h
  | chunk bytes :: more =>
    rw [receive_chunk] at h
    split at h
    · simp only [Prod.mk.injEq] at h
      rw [backlog_cons_chunk, h.2]; omega
    · simp only [Prod.mk.injEq, chunk.injEq] at h
      obtain ⟨taken, rfl⟩ := h
      have positive : 0 < got.length := List.length_pos_iff.2 nonempty
      have : 0 < asked := by
        rw [← taken, List.length_take] at positive; omega
      rw [backlog_cons_chunk, backlog_cons_chunk, List.length_drop]; omega

end Incoming

/-- How many bytes are still to come from several endpoints. -/
def Endpoint.bytesLeft (endpoints : List Endpoint) : Nat :=
  endpoints.foldr (fun e left => Incoming.bytesLeft e.incoming + left) 0

end DwmIpc
