import DwmIpc.Proofs.Calls
import DwmIpc.Proofs.Codec
import DwmIpc.Proofs.Stream.Offering

/-!
# Sending under faults

A socket may accept few bytes at a time or none, fail for a while, or fail for
good. Whatever it does, what it has accepted of a message is a prefix of the
frame, and all of it just if sending succeeded; `Endpoint.sent_writeMessage` is
the whole of this.

A client that could not send its request does not wait for a reply: a request
that is not sent comes to what sending it did (`Client.exchange_of_send_fails`),
and sending asks the socket for nothing (`Connection.asked_send`). The main
result, `sending_never_corrupts`, is about both.
-/

namespace DwmIpc

/-! ## Sending asks for nothing -/

namespace Endpoint

theorem asked_sendAll (data : Bytes) (plan : List Outgoing) :
    Notice.asked (sendAll data plan).did = [] := by
  fun_induction sendAll data plan with
  | case1 data => split <;> rfl
  | case2 => rfl
  | case3 data rest _ count ih => exact ih
  | case4 data rest _ f _ ih => exact ih
  | case5 => rfl

/-- Writing asks for nothing. -/
theorem asked_writeMessage (type : Int) (payload : Bytes) (e : Endpoint) :
    Notice.asked (writeMessage type payload e).did = [] := by
  cases hheader : Header.encode type payload.length with
  | error failure =>
    rw [writeMessage, hheader]
    rfl
  | ok header =>
    have hasked := asked_sendAll header e.outgoing
    cases hfirst : sendAll header e.outgoing with
    | mk value did rest =>
      rw [hfirst] at hasked
      cases value with
      | error failure =>
        rw [writeMessage_header_fails hheader hfirst]
        exact hasked
      | ok _ =>
        obtain ⟨records, hwrite⟩ := writeMessage_header_sent hheader hfirst
        rw [hwrite]
        show Notice.asked (did ++ ((sendAll payload rest).did ++ records.map .log)) = []
        rw [Notice.asked_append, Notice.asked_append, Notice.asked_map_log, asked_sendAll]
        simpa using hasked

end Endpoint

namespace Connection

theorem asked_acquire (c : Connection) : Effect.asked (acquire c).did = [] := by
  cases hheld : c.held with
  | some e =>
    rw [acquire_held hheld]
    rfl
  | none =>
    cases hconnect : (c.pending.headD .quiet).connectFault with
    | none =>
      rw [acquire_connects hheld hconnect]
      rfl
    | some f =>
      rw [acquire_fails hheld hconnect, connectFailure]
      split
      · split <;> rfl
      · rfl

theorem asked_send (type : Int) (payload : Bytes) (c : Connection) :
    Effect.asked (send type payload c).did = [] := by
  have hacquire := asked_acquire c
  cases hrun : acquire c with
  | mk value did d =>
    rw [hrun] at hacquire
    cases value with
    | error failure =>
      have hsend : send type payload c = ⟨.error failure, did, d⟩ := Action.bind_error hrun
      rw [hsend]
      exact hacquire
    | ok e =>
      rw [send, onSocket_of_acquire hrun]
      show Effect.asked (did ++ (Endpoint.writeMessage type payload e).did.map _) = []
      rw [Effect.asked_append, Effect.asked_map_onSocket, Endpoint.asked_writeMessage]
      simpa using hacquire

end Connection

/-! ## Requests that cannot be sent -/

section

variable {failure : Failure} {did : List Effect}

/-- A request that is not sent comes to what sending it did. -/
theorem Client.exchange_of_send_fails {c : Client} {request : Request} {payload : Bytes}
    {d : Connection} (hpayload : request.payload = .ok payload)
    (hsend : Connection.send request.type.toByte.toNat payload c.connection =
      ⟨.error failure, did, d⟩) :
    exchange request c = ⟨.error failure, did, { c with connection := d }⟩ := by
  have hfirst : onConnection (Connection.send request.type.toByte.toNat payload) c =
      ⟨.error failure, did, { c with connection := d }⟩ := by
    rw [onConnection, Action.within, hsend, List.map_id]
  rw [exchange, hpayload, Action.ofExcept_ok_bind]
  exact Action.bind_error hfirst

/-- A call whose request fails comes to what the request did. -/
theorem Session.step_of_exchange_fails {s : Session} {call : Call} {request : Request} {c : Client}
    (hrequest : call.request = .ok (some request))
    (hexchange : Client.exchange request s.client = ⟨.error failure, did, c⟩) :
    step call s = ⟨.error failure, did, { s with client := c }⟩ := by
  have answer {α : Type} {m : Action Effect Client α} {f : α → Answer}
      (hm : m s.client = ⟨.error failure, did, c⟩) :
      (do return f (← onClient m) : Action Effect Session Answer) s =
        ⟨.error failure, did, { s with client := c }⟩ := by
    rw [answer_onClient, hm]
    rfl
  cases call with
  | connect | close | enter | leave | setIgnoreReply _ | readEvent | openReader | nextEvent _ =>
    cases hrequest
  | getMonitors | getTags | getLayouts =>
    cases hrequest
    exact answer hexchange
  | runCommand name arguments | subscribe event =>
    cases hrequest
    -- there is no reply that could be kept back
    exact answer (Action.bind_error hexchange)
  | getClient id =>
    rw [Call.request] at hrequest
    cases hid : Client.windowId id with
    | error refusal =>
      rw [hid] at hrequest
      cases hrequest
    | ok window =>
      rw [hid] at hrequest
      cases hrequest
      refine answer ?_
      rw [Client.getClient, hid, Action.ofExcept_ok_bind]
      exact hexchange

end

/-! ## Sending never corrupts -/

open Endpoint Session

/-- **Sending never corrupts a stream.** Whatever the socket does, it has accepted a prefix of the
frame, and all of it just if sending succeeded; every call offered what the ones before it had left
of the header, and then of the payload; sending failed just if a call met a fault that is not
transient, as an IPC failure if the system reported it; and the calls are at most two more than the
plan has items. Nothing is sent of a message whose type is no byte. A request that fails in being
sent has asked the socket for nothing. -/
theorem sending_never_corrupts (e : Endpoint) (type : Int) (payload : Bytes) :
    (0 ≤ type ∧ type ≤ 255 ∧ payload.length ≤ maxPayloadSize →
      ∃ header : Bytes, header.length = headerSize ∧
        Message.encode type payload = .ok (header ++ payload) ∧
        let run := writeMessage type payload e
        Sent (unsent header payload) (header ++ payload) e.outgoing run.value run.did
            run.state.outgoing ∧
          (Notice.offers run.did).length ≤ e.outgoing.length + 2) ∧
      (¬(0 ≤ type ∧ type ≤ 255) →
        writeMessage type payload e = ⟨.error (.typeOutOfRange type), [], e⟩) ∧
      (∀ f, (Failure.writeFailed f).label? = some "IOFailureError") ∧
      ∀ (s : Session) (call : Call) (request : Request) (bytes : Bytes) (failure : Failure),
        call.request = .ok (some request) → request.payload = .ok bytes →
        let sending := Connection.send request.type.toByte.toNat bytes s.client.connection
        sending.value = .error failure →
        step call s = ⟨.error failure, sending.did,
          { s with client := { s.client with connection := sending.state } }⟩ ∧
        Effect.asked sending.did = [] := by
  refine ⟨?sent, ?refused, fun _ => rfl, ?silent⟩
  case sent =>
    intro hfits
    rcases Header.encode_outcomes type payload.length with
      ⟨hrange, -⟩ | ⟨-, hlong, -⟩ | ⟨byte, -, -, hheader⟩
    · exact absurd ⟨hfits.1, hfits.2.1⟩ hrange
    · exact absurd hfits.2.2 (Nat.not_le.2 hlong)
    · refine ⟨_, Header.length_bytes _, ?_, sent_writeMessage hheader,
        length_offers_writeMessage hheader⟩
      rw [Message.encode, hheader]
      rfl
  case refused =>
    intro hrange
    exact writeMessage_refused (Message.encode_typeOutOfRange hrange payload)
  case silent =>
    intro s call request bytes failure hrequest hpayload sending hfails
    have hsend : sending = ⟨.error failure, sending.did, sending.state⟩ := by rw [← hfails]
    have hexchange := Client.exchange_of_send_fails hpayload hsend
    exact ⟨step_of_exchange_fails hrequest hexchange, Connection.asked_send _ _ _⟩

end DwmIpc
