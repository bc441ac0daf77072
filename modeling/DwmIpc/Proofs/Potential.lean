import DwmIpc.Proofs.Ownership

/-!
# Bytes that are still to come

The bytes that the scripts of a connection still hold are its potential
(`Connection.bytesLeft`). No move raises it (`bytesLeft_goes`), and a message that
is received lowers it, since the header alone takes bytes (`bytesLeft_receive`).
So there are fewer receipts than bytes, and a loop that receives a message in each
round ends within the potential.
-/

namespace DwmIpc

namespace Incoming

theorem bytesLeft_cons_fault (f : Fault) (rest : List Incoming) :
    bytesLeft (.fault f :: rest) = bytesLeft rest := rfl

theorem bytesLeft_cons_chunk (bytes : Bytes) (rest : List Incoming) :
    bytesLeft (.chunk bytes :: rest) = bytes.length + bytesLeft rest := rfl

/-- The bytes that arrive before the first obstacle, and those behind it. -/
theorem bytesLeft_eq (incoming : List Incoming) :
    bytesLeft incoming = (flow incoming).length + bytesLeft (barrier incoming) := by
  induction incoming with
  | nil => rfl
  | cons item rest ih =>
    match item with
    | .fault f =>
      by_cases transient : f.isTransient = true
      · rw [flow, if_pos transient, barrier, if_pos transient, bytesLeft_cons_fault, ih]
      · rw [flow, if_neg transient, barrier, if_neg transient, List.length_nil, Nat.zero_add]
    | .chunk bytes =>
      by_cases hempty : bytes = []
      · rw [flow, if_pos hempty, barrier, if_pos hempty, List.length_nil, Nat.zero_add]
      · rw [flow, if_neg hempty, barrier, if_neg hempty, bytesLeft_cons_chunk, ih,
          List.length_append, Nat.add_assoc]

/-- A reception hands out bytes, or none. -/
theorem bytesLeft_receive (asked : Nat) (incoming : List Incoming) :
    bytesLeft (receive asked incoming).2 ≤ bytesLeft incoming := by
  match incoming with
  | [] => exact Nat.le_refl _
  | .fault f :: rest => exact Nat.le_refl _
  | .chunk bytes :: rest =>
    rw [receive_chunk]
    split
    · exact Nat.le_add_left ..
    · show bytesLeft (.chunk (bytes.drop asked) :: rest) ≤ _
      rw [bytesLeft_cons_chunk, bytesLeft_cons_chunk, List.length_drop]
      omega

end Incoming

namespace Endpoint

open Incoming

/-- A message that was read has taken its header at least. -/
theorem bytesLeft_readMessage {e : Endpoint} {m : Message} (h : (readMessage e).value = .ok m) :
    Incoming.bytesLeft (readMessage e).state.incoming < Incoming.bytesLeft e.incoming := by
  rcases Nat.lt_or_ge (flow e.incoming).length headerSize with short | hheader
  · obtain ⟨did, hrun⟩ := readMessage_headerShort short
    rw [hrun] at h
    cases h
  · cases hdecode : Header.decode (flow e.incoming) with
    | error failure =>
      obtain ⟨did, rest, hrun, -⟩ := readHeader_enough hheader
      rw [hdecode] at hrun
      have hread : readMessage e = _ := Action.bind_error hrun
      rw [hread] at h
      cases h
    | ok header =>
      rcases Nat.lt_or_ge (flow e.incoming).length (headerSize + header.size) with short | enough
      · obtain ⟨did, hrun⟩ := readMessage_payloadShort hdecode hheader short
        rw [hrun] at h
        cases h
      · -- the flow is shorter by the message, and behind it nothing has changed
        obtain ⟨did, rest, hrun, hflow, hbarrier⟩ := readMessage_enough hdecode enough
        have hpositive : 0 < headerSize := by decide
        rw [hrun, Incoming.bytesLeft_eq, Incoming.bytesLeft_eq e.incoming, hflow, hbarrier,
          List.length_drop]
        omega

theorem bytesLeft_append (a b : List Endpoint) :
    bytesLeft (a ++ b) = bytesLeft a + bytesLeft b := by
  induction a with
  | nil => exact (Nat.zero_add _).symm
  | cons e rest ih =>
    show Incoming.bytesLeft e.incoming + bytesLeft (rest ++ b)
      = Incoming.bytesLeft e.incoming + bytesLeft rest + bytesLeft b
    rw [ih, Nat.add_assoc]

/-- A call does not bring new bytes. -/
theorem bytesLeft_next (e : Endpoint) (call : SocketCall) :
    Incoming.bytesLeft (e.next call).incoming ≤ Incoming.bytesLeft e.incoming := by
  cases call with
  | connect _ | close | send _ _ => exact Nat.le_refl _
  | receive asked => exact Incoming.bytesLeft_receive asked e.incoming

end Endpoint

namespace Connection

/-- How many bytes the scripts of the sockets still hold. -/
def bytesLeft (c : Connection) : Nat :=
  Endpoint.bytesLeft (c.retired ++ (c.held.toList ++ c.pending))

variable {c d : Connection} {e : Endpoint}

/-- The bytes to come: from sockets that were left, from the one in use, and from those to come. -/
theorem bytesLeft_held (hheld : c.held = some e) :
    c.bytesLeft = Endpoint.bytesLeft c.retired +
      (Incoming.bytesLeft e.incoming + Endpoint.bytesLeft c.pending) := by
  rw [bytesLeft, hheld, Endpoint.bytesLeft_append]
  rfl

/-- A socket that is taken into use brings no more bytes than were to come. -/
theorem bytesLeft_open (hheld : c.held = none) :
    bytesLeft { c with pending := c.pending.tail, held := some c.socket } = c.bytesLeft := by
  rw [bytesLeft_held rfl, bytesLeft, hheld, Endpoint.bytesLeft_append, socket, hheld]
  cases c.pending <;> rfl

/-- A move does not bring new bytes. -/
theorem bytesLeft_moves {effect : Effect} (h : Moves c effect d) : d.bytesLeft ≤ c.bytesLeft := by
  cases h with
  | record record => exact Nat.le_refl _
  | connect hheld _ => exact Nat.le_of_eq (bytesLeft_open hheld)
  | @transfer e call hheld _ _ =>
    have hnext := e.bytesLeft_next call
    rw [bytesLeft_held rfl, bytesLeft_held hheld]
    exact Nat.add_le_add_left (Nat.add_le_add_right hnext _) _
  | @close e hheld _ =>
    have hlist : (c.retired ++ [e]) ++ c.pending = c.retired ++ ([e] ++ c.pending) :=
      List.append_assoc ..
    rw [bytesLeft, bytesLeft, hheld]
    show Endpoint.bytesLeft ((c.retired ++ [e]) ++ c.pending) ≤ _
    exact Nat.le_of_eq (congrArg Endpoint.bytesLeft hlist)

theorem bytesLeft_goes {did : List Effect} (h : dynamics.Goes c did d) :
    d.bytesLeft ≤ c.bytesLeft := by
  induction h with
  | done => exact Nat.le_refl _
  | step hmove _ ih => exact Nat.le_trans ih (bytesLeft_moves hmove)

/-- A message that was received has lowered the potential. -/
theorem bytesLeft_receive {m : Message} (h : (receive c).value = .ok m) :
    (receive c).state.bytesLeft < c.bytesLeft := by
  rcases acquire_cases c with ⟨did, d, hrun, hgoes, hheld⟩ | ⟨did, d, failure, hrun, -⟩
  · rw [receive, onSocket_of_acquire hrun] at h ⊢
    have hread := Endpoint.bytesLeft_readMessage h
    have hbefore := bytesLeft_goes hgoes
    rw [bytesLeft_held hheld] at hbefore
    rw [bytesLeft_held rfl]
    refine Nat.lt_of_lt_of_le ?_ hbefore
    exact Nat.add_lt_add_left (Nat.add_lt_add_right hread _) _
  · have hreceive : receive c = ⟨.error failure, did, d⟩ := Action.bind_error hrun
    rw [hreceive] at h
    cases h

end Connection

end DwmIpc
