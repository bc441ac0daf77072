import DwmIpc.Proofs.Delivery
import DwmIpc.Proofs.Stream.Ending
import DwmIpc.Proofs.Stream.Offering

/-!
# Exchanges over a stream that ends somehow

A connection is `Streaming` some messages if its socket can be connected, accepts
what is sent, and delivers the frames of these messages and then ends: by its
peer, in the middle of a frame, with bytes that are no frame, or with a fault.
`Comes` says what an action comes to on such a connection. One receipt takes the
first message or, if there is none, fails as the stream ends
(`Streaming.receive`); a request goes out as a whole, or not at all if it cannot be
framed (`comes_exchange`, `comes_exchange_refused`). On any other connection at least
a beginning of it goes out (`exchange_begins`).
-/

namespace DwmIpc

/-! ## What is sent on one socket -/

namespace Effect

/-- These bytes were sent, all of them on this socket. -/
def SentOnly (socket : Nat) (bytes : Bytes) (effects : List Effect) : Prop :=
  ∀ n, sentOn n effects = if socket = n then bytes else []

variable {socket : Nat} {a b : Bytes} {effects more : List Effect}

theorem SentOnly.nil : SentOnly socket [] [] :=
  fun _ => (ite_self _).symm

theorem SentOnly.of_silent (h : ∀ n, sentOn n effects = []) : SentOnly socket [] effects :=
  fun n => (h n).trans (ite_self _).symm

/-- What sends nothing on its socket sends nothing at all. -/
theorem SentOnly.silent (h : SentOnly socket [] effects) (n : Nat) : sentOn n effects = [] :=
  (h n).trans (ite_self _)

/-- What is sent on one socket only adds up. -/
theorem SentOnly.append (h : SentOnly socket a effects) (h' : SentOnly socket b more) :
    SentOnly socket (a ++ b) (effects ++ more) := by
  intro n
  rw [sentOn_append, h n, h' n]
  split <;> rfl

/-- Where no call was made, nothing was sent. -/
theorem sentOn_of_calls (h : calls effects = []) (n : Nat) : sentOn n effects = [] := by
  induction effects with
  | nil => rfl
  | cons effect rest ih =>
    cases effect with
    | log record => exact ih h
    | call socket made => cases h

end Effect

/-- What a run comes to: its value, the bytes sent on the one socket, and what holds after it. -/
structure Comes {σ α : Type} (run : Run Effect σ α) (value : Except Failure α) (socket : Nat)
    (sent : Bytes) (after : σ → Prop) : Prop where
  value : run.value = value
  sent : Effect.SentOnly socket sent run.did
  after : after run.state

namespace Comes

variable {σ α β : Type} {m : Action Effect σ α} {f : α → Action Effect σ β} {s : σ} {a : α}
  {socket : Nat} {sent sent' : Bytes} {after after' : σ → Prop}

/-- An action with a value, and the next one after it. -/
theorem bind_ok {value : Except Failure β} (h : Comes (m s) (.ok a) socket sent after)
    (hf : ∀ t, after t → Comes (f a t) value socket sent' after') :
    Comes ((m >>= f) s) value socket (sent ++ sent') after' := by
  cases hrun : m s with
  | mk x did t =>
    rw [hrun] at h
    obtain rfl : x = .ok a := h.value
    have hrest := hf t h.after
    rw [Action.bind_ok hrun]
    exact ⟨hrest.value, h.sent.append hrest.sent, hrest.after⟩

theorem bind_error {failure : Failure} (h : Comes (m s) (.error failure) socket sent after) :
    Comes ((m >>= f) s) (.error failure) socket sent after := by
  cases hrun : m s with
  | mk x did t =>
    rw [hrun] at h
    obtain rfl : x = .error failure := h.value
    rw [Action.bind_error hrun]
    exact ⟨rfl, h.sent, h.after⟩

end Comes

/-! ## Connections -/

namespace Connection

/-- The socket with this number is in use or the next one, it accepts the connection and what is
sent, and it delivers these messages before a read fails. -/
structure Streaming (c : Connection) (number : Nat) (messages : List Message) (failure : Failure) :
    Prop where
  current : c.current = number
  connects : c.held = none → c.socket.connectFault = none
  patient : Outgoing.Tolerant c.socket.outgoing
  fits : ∀ m ∈ messages, m.Fits
  streams : Incoming.Streams c.socket.incoming messages failure

/-- What a receipt gives when these messages are still to come. -/
def next (failure : Failure) : List Message → Except Failure Message
  | [] => .error failure
  | m :: _ => .ok m

variable {c : Connection} {number : Nat} {messages : List Message} {failure : Failure}

/-- The connection after a receipt: unless the stream is over, one message less is to come. -/
def Received (number : Nat) (messages : List Message) (failure : Failure) (d : Connection) : Prop :=
  messages ≠ [] → d.Streaming number messages.tail failure

/-- A connection that holds a socket which streams is streaming. -/
theorem Streaming.of_held {e : Endpoint} (hheld : c.held = some e) (current : c.current = number)
    (patient : Outgoing.Tolerant e.outgoing) (fits : ∀ m ∈ messages, m.Fits)
    (streams : Incoming.Streams e.incoming messages failure) :
    c.Streaming number messages failure := by
  have hsocket : c.socket = e := by rw [socket, hheld]; rfl
  refine ⟨current, fun hnone => ?_, hsocket ▸ patient, fits, hsocket ▸ streams⟩
  rw [hnone] at hheld
  exact absurd hheld (by simp)

/-- An action on the socket, with the socket it leaves. -/
theorem Streaming.onSocket (h : c.Streaming number messages failure) {α : Type}
    {action : Action Notice Endpoint α} {value : Except Failure α} {did : List Notice}
    {e : Endpoint} (hrun : action c.socket = ⟨value, did, e⟩) :
    Comes (Connection.onSocket action c) value number (Notice.accepted did)
      fun d => d.held = some e ∧ d.current = number := by
  obtain ⟨effects, d, hall, hsent, hheld, hcurrent⟩ := onSocket_socket h.connects action
  rw [hrun] at hall hsent hheld
  rw [h.current] at hsent hcurrent
  rw [hall]
  exact ⟨rfl, hsent, hheld, hcurrent⟩

/-- A receipt takes the first message, or fails as the stream ends. -/
theorem Streaming.receive (h : c.Streaming number messages failure) :
    Comes (Connection.receive c) (next failure messages) number []
      (Received number messages failure) := by
  have hsilent := Endpoint.accepted_readMessage c.socket
  have hstreams := h.streams
  cases hmessages : messages with
  | nil =>
    rw [hmessages] at hstreams
    obtain ⟨did, left, hrun⟩ := Endpoint.readMessage_streams_nil hstreams
    rw [hrun] at hsilent
    have hall := h.onSocket hrun
    rw [hsilent] at hall
    exact ⟨hall.value, hall.sent, fun hne => absurd rfl hne⟩
  | cons m rest =>
    rw [hmessages] at hstreams
    have hfits : ∀ m' ∈ m :: rest, m'.Fits := hmessages ▸ h.fits
    obtain ⟨did, left, hrun, hleft⟩ :=
      Endpoint.readMessage_streams (hfits m (List.mem_cons_self ..)) hstreams
    rw [hrun] at hsilent
    have hall := h.onSocket hrun
    rw [hsilent] at hall
    refine ⟨hall.value, hall.sent, fun _ => ?_⟩
    exact .of_held hall.after.1 hall.after.2 h.patient
      (fun m' hm' => hfits m' (List.mem_cons_of_mem _ hm')) hleft

/-- A message that can be encoded is sent, and nothing is received. -/
theorem Streaming.send (h : c.Streaming number messages failure) {type : Int}
    {payload bytes : Bytes} (hframe : Message.encode type payload = .ok bytes) :
    Comes (Connection.send type payload c) (.ok ()) number bytes
      fun d => d.Streaming number messages failure := by
  obtain ⟨did, rest, hwrite, haccepted, hrest⟩ := Endpoint.writeMessage_tolerant h.patient hframe
  have hall := h.onSocket hwrite
  rw [haccepted] at hall
  exact ⟨hall.value, hall.sent, .of_held hall.after.1 hall.after.2 hrest h.fits h.streams⟩

/-- If it cannot be encoded, nothing is sent. -/
theorem Streaming.send_refused (h : c.Streaming number messages failure) {type : Int}
    {payload : Bytes} {refusal : Failure} (hframe : Message.encode type payload = .error refusal) :
    Comes (Connection.send type payload c) (.error refusal) number [] fun _ => True := by
  have hall := h.onSocket (Endpoint.writeMessage_refused (e := c.socket) hframe)
  exact ⟨hall.value, hall.sent, trivial⟩

/-! ## Any connection -/

/-- To get hold of a socket nothing is sent, whether it connects or not. -/
theorem silent_acquire (c : Connection) (n : Nat) : Effect.sentOn n (acquire c).did = [] := by
  cases hheld : c.held with
  | some e => rw [acquire_held hheld]; rfl
  | none =>
    cases hconnect : (c.pending.headD .quiet).connectFault with
    | none => rw [acquire_connects hheld hconnect]; rfl
    | some f =>
      rw [acquire_fails hheld hconnect]
      simp only [connectFailure]
      split
      · split <;> rfl
      · rfl

/-- To receive nothing is sent. -/
theorem silent_receive (c : Connection) (n : Nat) :
    Effect.sentOn n (Connection.receive c).did = [] := by
  have hsilent := silent_acquire c n
  cases hrun : acquire c with
  | mk value did d =>
    rw [hrun] at hsilent
    cases value with
    | ok e =>
      have hreceive : Connection.receive c = _ := onSocket_of_acquire hrun
      rw [hreceive, Effect.sentOn_append, Effect.sentOn_map_onSocket,
        Endpoint.accepted_readMessage, ite_self, List.append_nil]
      exact hsilent
    | error failure =>
      have hreceive : Connection.receive c = _ := Action.bind_error hrun
      rw [hreceive]
      exact hsilent

/-- The socket that is got hold of is the current one. -/
theorem current_acquire (c : Connection) :
    ∀ e, (acquire c).value = .ok e → (acquire c).state.current = c.current := by
  intro e hvalue
  cases hheld : c.held with
  | some e => rw [acquire_held hheld]
  | none =>
    cases hconnect : (c.pending.headD .quiet).connectFault with
    | none =>
      rw [acquire_connects hheld hconnect]
      rfl
    | some f =>
      rw [acquire_fails hheld hconnect] at hvalue
      cases hvalue

/-- In whatever way the socket takes it, a message goes to the current one: a beginning of its frame,
and the whole of it after success. -/
theorem send_begins {type : Int} {payload frame : Bytes}
    (hframe : Message.encode type payload = .ok frame) (c : Connection) :
    ∃ sent, Effect.SentOnly c.current sent (Connection.send type payload c).did ∧ sent <+: frame ∧
      ((Connection.send type payload c).value = .ok () → sent = frame) := by
  have hsilent := silent_acquire c
  have hcurrent := current_acquire c
  cases hrun : acquire c with
  | mk value did d =>
    rw [hrun] at hsilent hcurrent
    cases value with
    | error failure =>
      have hsend : Connection.send type payload c = _ := Action.bind_error hrun
      rw [hsend]
      exact ⟨[], .of_silent hsilent, List.nil_prefix, fun h => nomatch h⟩
    | ok e =>
      have hsend : Connection.send type payload c = _ := onSocket_of_acquire hrun
      rw [hsend, hcurrent e rfl]
      cases hheader : Header.encode type payload.length with
      | error failure =>
        rw [Message.encode, hheader] at hframe
        cases hframe
      | ok header =>
        rw [Message.encode, hheader] at hframe
        obtain rfl : header ++ payload = frame := Except.ok.inj hframe
        have hsent := @Endpoint.sent_writeMessage e _ _ _ hheader
        refine ⟨_, fun n => ?_, hsent.begins, hsent.whole.1⟩
        rw [Effect.sentOn_append, hsilent n, Effect.sentOn_map_onSocket, List.nil_append]

end Connection

/-! ## Clients -/

namespace Client

open Connection

variable {α : Type} {c : Client} {number : Nat} {messages : List Message} {failure : Failure}

/-- What an action on the connection comes to, it comes to on the client. -/
theorem comes_onConnection {action : Action Effect Connection α} {value : Except Failure α}
    {sent : Bytes} {after : Connection → Prop}
    (h : Comes (action c.connection) value number sent after) :
    Comes (onConnection action c) value number sent fun d => after d.connection := by
  refine ⟨h.value, ?_, h.after⟩
  rw [onConnection, Action.within, List.map_id]
  exact h.sent

theorem comes_receive (h : c.connection.Streaming number messages failure) :
    Comes (onConnection Connection.receive c) (next failure messages) number []
      fun d => Received number messages failure d.connection :=
  comes_onConnection h.receive

/-- A request that can be framed is sent, and takes the first message as its reply. -/
theorem comes_exchange (h : c.connection.Streaming number messages failure) {request : Request}
    {bytes : Bytes} (hframe : request.frame = .ok bytes) :
    Comes (exchange request c) (next failure messages) number bytes
      fun d => Received number messages failure d.connection := by
  unfold Request.frame at hframe
  cases hpayload : request.payload with
  | error refusal => rw [hpayload] at hframe; exact absurd hframe (by simp)
  | ok payload =>
    rw [hpayload] at hframe
    rw [exchange, hpayload, ← List.append_nil bytes]
    exact (comes_onConnection (h.send hframe)).bind_ok fun _ hsent => comes_receive hsent

/-- A request that cannot be framed sends nothing. -/
theorem comes_exchange_refused (h : c.connection.Streaming number messages failure)
    {request : Request} {refusal : Failure} (hframe : request.frame = .error refusal) :
    Comes (exchange request c) (.error refusal) number [] fun _ => True := by
  unfold Request.frame at hframe
  cases hpayload : request.payload with
  | error refusal' =>
    rw [hpayload] at hframe
    obtain rfl : refusal' = refusal := Except.error.inj hframe
    rw [exchange, hpayload]
    exact ⟨rfl, .nil, trivial⟩
  | ok payload =>
    rw [hpayload] at hframe
    rw [exchange, hpayload]
    exact (comes_onConnection (h.send_refused hframe)).bind_error

/-- A reply is handed over or, if replies are ignored, logged; nothing else happens. -/
theorem comes_handOver (m : Message) (c : Client) (number : Nat) :
    Comes ((do
        if (← Action.get).ignoreReply then
          log ⟨.debug, .client,
            Text.ofString "discarding " ++ Text.ofNat m.payload.length ++
              Text.ofString " byte reply"⟩
          return none
        else return some m : Action Effect Client (Option Message)) c)
      (.ok (if c.ignoreReply then none else some m)) number [] (· = c) := by
  show Comes ⟨((if c.ignoreReply then _ else _ : Action Effect Client (Option Message)) c).value,
    [] ++ ((if c.ignoreReply then _ else _ : Action Effect Client (Option Message)) c).did,
    ((if c.ignoreReply then _ else _ : Action Effect Client (Option Message)) c).state⟩ _ _ _ _
  by_cases hquiet : c.ignoreReply = true
  · simp only [if_pos hquiet]
    exact ⟨rfl, .of_silent fun _ => rfl, rfl⟩
  · simp only [if_neg hquiet]
    exact ⟨rfl, .of_silent fun _ => rfl, rfl⟩

/-- The reply is taken from the stream also when it is kept back. -/
theorem comes_exchangeQuietly {m : Message} {rest : List Message}
    (h : c.connection.Streaming number (m :: rest) failure) {request : Request} {bytes : Bytes}
    (hframe : request.frame = .ok bytes) :
    ∃ reply, Comes (exchangeQuietly request c) (.ok reply) number bytes
      fun d => d.connection.Streaming number rest failure := by
  have hexchange := comes_exchange h hframe
  cases hrun : exchange request c with
  | mk value did d =>
    rw [hrun] at hexchange
    obtain rfl : value = .ok m := hexchange.value
    have hover := comes_handOver m d number
    refine ⟨if d.ignoreReply then none else some m, ?_⟩
    rw [exchangeQuietly, Action.bind_ok hrun, ← List.append_nil bytes]
    refine ⟨hover.value, hexchange.sent.append hover.sent, ?_⟩
    rw [hover.after]
    exact hexchange.after (by simp)

end Client

end DwmIpc
