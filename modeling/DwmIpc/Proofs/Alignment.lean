import DwmIpc.Proofs.Calls
import DwmIpc.Proofs.Codec
import DwmIpc.Proofs.Payload

/-!
# Sessions over one socket

A session over one socket that delivers a list of messages. The invariant is that
the connection delivers what the calls so far have left
(`Session.delivering_final`): each call that waits takes one message, and no call
takes a part of one.
-/

namespace DwmIpc

/-- A payload that is not too long is framed, and one that is too long is refused. -/
theorem Message.encode_cases (type : MessageType) (payload : Bytes) :
    (payload.length ≤ maxPayloadSize ∧ ∃ bytes, encode type.toByte.toNat payload = .ok bytes) ∨
      (maxPayloadSize < payload.length ∧
        encode type.toByte.toNat payload = .error (.payloadTooLarge payload.length)) := by
  have htype := type.toByte.toNat_lt
  rcases encode_outcomes type.toByte.toNat payload with
    ⟨hrange, -⟩ | ⟨-, hlong, hfail⟩ | ⟨m, -, rfl, hfits, hok⟩
  · exact absurd ⟨by omega, by omega⟩ hrange
  · exact .inr ⟨hlong, hfail⟩
  · exact .inl ⟨hfits, _, hok⟩

namespace Session

open DwmIpc.Action Connection Effect

/-- What the calls of a session leave, whether replies are ignored then, and what was sent. -/
theorem delivering_final {s : Session} {messages : List Message}
    (h : s.client.connection.Delivering messages) {calls : List Call}
    (hdirect : ∀ call ∈ calls, call.Direct) :
    (final (calls.map step) s).client.connection.Delivering
        (messages.drop (calls.filter Call.takesMessage).length) ∧
      (final (calls.map step) s).client.ignoreReply =
        calls.foldl Call.ignoreReplyAfter s.client.ignoreReply ∧
      sentOn 0 ((transcript (calls.map step) s).flatMap (·.did)) = calls.flatMap Call.sent := by
  induction calls generalizing s messages with
  | nil => exact ⟨h, rfl, rfl⟩
  | cons call rest ih =>
    -- the invariant goes through one call, with the messages that it leaves
    obtain ⟨run, hstep, hyields⟩ := yields_step h (hdirect call (List.mem_cons_self ..))
    have hleft : (step call s).state.client.connection.Delivering (call.leaves messages) := by
      rw [hstep]; exact hyields.left
    obtain ⟨hrest, hquiet, hsent⟩ := ih hleft fun c hc => hdirect c (List.mem_cons_of_mem _ hc)
    refine ⟨?_, ?_, ?_⟩
    · rw [← Call.drop_leaves]
      exact hrest
    · rw [List.map_cons, final, hquiet, hstep, hyields.ignoreReply, List.foldl_cons]
    · rw [List.map_cons, transcript, List.flatMap_cons, sentOn_append, hsent, List.flatMap_cons,
        hstep, hyields.sent]

theorem delivering_new {messages : List Message} (fits : ∀ m ∈ messages, m.Fits) {e : Endpoint}
    (delivers : Incoming.Delivers e.incoming (messages.flatMap Message.frame))
    (connects : e.connectFault = none) (patient : Outgoing.Tolerant e.outgoing)
    (path : Option Text) (ignoreReply : Bool) :
    (new (Client.new path [e] ignoreReply)).client.connection.Delivering messages :=
  ⟨rfl, fun _ => connects, patient, fits, delivers⟩

/-- These bytes, and no others, are still to be received. -/
def Unread (s : Session) (bytes : Bytes) : Prop :=
  Incoming.Delivers s.client.connection.socket.incoming bytes

end Session

end DwmIpc
