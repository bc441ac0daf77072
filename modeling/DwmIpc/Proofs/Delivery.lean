import DwmIpc.Proofs.Connection
import DwmIpc.Proofs.Stream.Framing
import DwmIpc.Proofs.Stream.Sending
import DwmIpc.Client

/-!
# Exchanges over a socket that delivers frames

A connection is `Delivering` a list of messages if its socket can be connected,
accepts what is sent, and has the frames of just these messages to deliver. One
receipt takes the first of them (`Delivering.receive`), and sending takes none
(`Delivering.send`).

`Client.Yields` says what an action of a client comes to on such a connection:
its value, what it sent, and the messages left. A request and its reply yield the
first message, whatever it is (`yields_exchange`): requests and replies are
paired by their places only.
-/

namespace DwmIpc

/-! ## Connections -/

namespace Connection

/-- The socket that the next action is on: the one that is held, or the next one. -/
def socket (c : Connection) : Endpoint :=
  c.held.getD (c.pending.headD .quiet)

/-- The first socket is in use or to come, accepts what is sent, and delivers these messages. -/
structure Delivering (c : Connection) (messages : List Message) : Prop where
  first : c.current = 0
  connects : c.held = none → c.socket.connectFault = none
  patient : Outgoing.Tolerant c.socket.outgoing
  fits : ∀ m ∈ messages, m.Fits
  delivers : Incoming.Delivers c.socket.incoming (messages.flatMap Message.frame)

/-- What a receipt gives when these messages are still to come. -/
def received : List Message → Except Failure Message
  | [] => .error (.closedBeforeData headerSize)
  | m :: _ => .ok m

variable {c : Connection} {messages : List Message}

/-- A connection that holds a socket which delivers is delivering. -/
theorem Delivering.of_held {e : Endpoint} (hheld : c.held = some e) (hfirst : c.current = 0)
    (patient : Outgoing.Tolerant e.outgoing) (fits : ∀ m ∈ messages, m.Fits)
    (delivers : Incoming.Delivers e.incoming (messages.flatMap Message.frame)) :
    c.Delivering messages := by
  have hsocket : c.socket = e := by rw [socket, hheld]; rfl
  refine ⟨hfirst, fun hnone => ?_, hsocket ▸ patient, fits, hsocket ▸ delivers⟩
  rw [hnone] at hheld
  exact absurd hheld (by simp)

/-- The socket is handed out, whether it is held already or not. -/
theorem acquire_socket (connects : c.held = none → c.socket.connectFault = none) :
    ∃ did d, Connection.acquire c = ⟨.ok c.socket, did, d⟩ ∧ (∀ n, Effect.sentOn n did = []) ∧
      d.held = some c.socket ∧ d.current = c.current := by
  cases hheld : c.held with
  | some e =>
    have hsocket : c.socket = e := by rw [socket, hheld]; rfl
    rw [hsocket]
    exact ⟨[], c, acquire_held hheld, fun _ => rfl, hheld, rfl⟩
  | none =>
    have hconnect := connects hheld
    have hsocket : c.socket = c.pending.headD .quiet := by rw [socket, hheld]; rfl
    rw [hsocket] at hconnect ⊢
    exact ⟨_, _, acquire_connects hheld hconnect, fun _ => rfl, rfl, rfl⟩

/-- So an action on the socket runs on that one. -/
theorem onSocket_socket (connects : c.held = none → c.socket.connectFault = none) {α : Type}
    (action : Action Notice Endpoint α) :
    ∃ did d, Connection.onSocket action c = ⟨(action c.socket).value, did, d⟩ ∧
      (∀ n, Effect.sentOn n did =
        if c.current = n then Notice.accepted (action c.socket).did else []) ∧
      d.held = some (action c.socket).state ∧ d.current = c.current := by
  obtain ⟨did, d, hrun, hsent, -, hcurrent⟩ := acquire_socket connects
  refine ⟨_, _, onSocket_of_acquire hrun, fun n => ?_, rfl, hcurrent⟩
  rw [Effect.sentOn_append, hsent, Effect.sentOn_map_onSocket, hcurrent, List.nil_append]

/-- The first socket is handed out. -/
theorem Delivering.acquire (h : c.Delivering messages) :
    ∃ did d, Connection.acquire c = ⟨.ok c.socket, did, d⟩ ∧ Effect.sentOn 0 did = [] ∧
      d.held = some c.socket ∧ d.current = 0 := by
  obtain ⟨did, d, hrun, hsent, hheld, hcurrent⟩ := acquire_socket h.connects
  exact ⟨did, d, hrun, hsent 0, hheld, hcurrent.trans h.first⟩

/-- So an action on the socket runs on the first socket. -/
theorem Delivering.onSocket (h : c.Delivering messages) {α : Type}
    (action : Action Notice Endpoint α) :
    ∃ did d, Connection.onSocket action c = ⟨(action c.socket).value, did, d⟩ ∧
      Effect.sentOn 0 did = Notice.accepted (action c.socket).did ∧
      d.held = some (action c.socket).state ∧ d.current = 0 := by
  obtain ⟨did, d, hrun, hsent, hheld, hcurrent⟩ := onSocket_socket h.connects action
  refine ⟨did, d, hrun, ?_, hheld, hcurrent.trans h.first⟩
  rw [hsent, if_pos h.first]

/-- A receipt takes the first message. -/
theorem Delivering.receive (h : c.Delivering messages) :
    ∃ did d, Connection.receive c = ⟨received messages, did, d⟩ ∧ Effect.sentOn 0 did = [] ∧
      d.Delivering messages.tail := by
  obtain ⟨did, d, hrun, hsent, hheld, hfirst⟩ := h.onSocket Endpoint.readMessage
  have hflow := h.delivers.flow_eq
  have hbarrier := h.delivers.barrier_eq
  rw [Endpoint.accepted_readMessage] at hsent
  cases messages with
  | nil =>
    -- all was read: the script is over
    obtain ⟨did', hread⟩ := Endpoint.readMessage_atEnd hflow (Or.inl hbarrier)
    rw [hread] at hrun hheld
    refine ⟨did, d, hrun, hsent, .of_held hheld hfirst h.patient h.fits ?_⟩
    rw [hbarrier]
    exact .done
  | cons m rest =>
    rw [List.flatMap_cons] at hflow
    obtain ⟨did', left, hread, hleft, hbehind⟩ :=
      Endpoint.readMessage_frame (h.fits m (List.mem_cons_self ..)) hflow
    rw [hread] at hrun hheld
    refine ⟨did, d, hrun, hsent, .of_held hheld hfirst h.patient
      (fun m' hm' => h.fits m' (List.mem_cons_of_mem _ hm')) ?_⟩
    rw [List.tail_cons, ← hleft]
    exact Incoming.delivers_of_barrier (hbehind.trans hbarrier)

/-- A message that can be encoded is sent, and nothing is received. -/
theorem Delivering.send (h : c.Delivering messages) {type : Int} {payload bytes : Bytes}
    (hframe : Message.encode type payload = .ok bytes) :
    ∃ did d, Connection.send type payload c = ⟨.ok (), did, d⟩ ∧ Effect.sentOn 0 did = bytes ∧
      d.Delivering messages := by
  obtain ⟨did, d, hrun, hsent, hheld, hfirst⟩ := h.onSocket (Endpoint.writeMessage type payload)
  obtain ⟨did', rest, hwrite, haccepted, hrest⟩ := Endpoint.writeMessage_tolerant h.patient hframe
  rw [hwrite] at hrun hsent hheld
  exact ⟨did, d, hrun, hsent.trans haccepted, .of_held hheld hfirst hrest h.fits h.delivers⟩

/-- If it cannot be encoded, nothing is sent either. -/
theorem Delivering.send_refused (h : c.Delivering messages) {type : Int} {payload : Bytes}
    {failure : Failure} (hframe : Message.encode type payload = .error failure) :
    ∃ did d, Connection.send type payload c = ⟨.error failure, did, d⟩ ∧
      Effect.sentOn 0 did = [] ∧ d.Delivering messages := by
  obtain ⟨did, d, hrun, hsent, hheld, hfirst⟩ := h.onSocket (Endpoint.writeMessage type payload)
  rw [Endpoint.writeMessage_refused hframe] at hrun hsent hheld
  exact ⟨did, d, hrun, hsent, .of_held hheld hfirst h.patient h.fits h.delivers⟩

/-- Connecting moves no bytes. -/
theorem Delivering.connect (h : c.Delivering messages) :
    ∃ did d, Connection.connect c = ⟨.ok (), did, d⟩ ∧ Effect.sentOn 0 did = [] ∧
      d.Delivering messages := by
  obtain ⟨did, d, hrun, hsent, hheld, hfirst⟩ := h.acquire
  refine ⟨did ++ [], d, Action.bind_ok hrun, ?_, .of_held hheld hfirst h.patient h.fits h.delivers⟩
  rw [List.append_nil, hsent]

end Connection

/-! ## Clients -/

/-- The frame of a request, if its payload can be made and is not too long. -/
def Request.frame (request : Request) : Except Failure Bytes :=
  match request.payload with
  | .ok payload => Message.encode request.type.toByte.toNat payload
  | .error failure => .error failure

namespace Client

open Connection

/-- What a run on a client comes to: its value, the bytes sent, and the messages left. -/
structure Yields {α : Type} (run : Run Effect Client α) (value : Except Failure α) (sent : Bytes)
    (ignoreReply : Bool) (left : List Message) : Prop where
  value : run.value = value
  sent : Effect.sentOn 0 run.did = sent
  ignoreReply : run.state.ignoreReply = ignoreReply
  left : run.state.connection.Delivering left

variable {α β : Type} {c : Client} {messages : List Message}

theorem onConnection_apply (m : Action Effect Connection α) (c : Client) :
    onConnection m c = ⟨(m c.connection).value, (m c.connection).did,
      { c with connection := (m c.connection).state }⟩ := by
  rw [onConnection, Action.within, List.map_id]

/-- An action with a value, and the next one after it. -/
theorem Yields.bind_ok {m : Action Effect Client α} {f : α → Action Effect Client β} {a : α}
    {sent sent' : Bytes} {quiet quiet' : Bool} {left left' : List Message}
    {value : Except Failure β} (h : Yields (m c) (.ok a) sent quiet left)
    (hf : Yields (f a (m c).state) value sent' quiet' left') :
    Yields ((m >>= f) c) value (sent ++ sent') quiet' left' := by
  cases hrun : m c with
  | mk x did d =>
    rw [hrun] at h hf
    obtain rfl : x = .ok a := h.value
    rw [Action.bind_ok hrun]
    refine ⟨hf.value, ?_, hf.ignoreReply, hf.left⟩
    rw [Effect.sentOn_append, hf.sent]
    exact congrArg (· ++ sent') h.sent

theorem Yields.bind_error {m : Action Effect Client α} {f : α → Action Effect Client β}
    {failure : Failure} {sent : Bytes} {quiet : Bool} {left : List Message}
    (h : Yields (m c) (.error failure) sent quiet left) :
    Yields ((m >>= f) c) (.error failure) sent quiet left := by
  cases hrun : m c with
  | mk x did d =>
    rw [hrun] at h
    obtain rfl : x = .error failure := h.value
    rw [Action.bind_error hrun]
    exact ⟨rfl, h.sent, h.ignoreReply, h.left⟩

/-- What an action on the connection comes to, it comes to on the client. -/
theorem yields_onConnection {action : Action Effect Connection α} {did : List Effect}
    {value : Except Failure α} {d : Connection} {sent : Bytes} {left : List Message}
    (hrun : action c.connection = ⟨value, did, d⟩) (hsent : Effect.sentOn 0 did = sent)
    (hleft : d.Delivering left) :
    Yields (onConnection action c) value sent c.ignoreReply left := by
  refine ⟨?_, ?_, rfl, ?_⟩
  · rw [onConnection, Action.within, hrun]
  · rw [onConnection, Action.within, hrun, List.map_id, hsent]
  · rw [onConnection, Action.within, hrun]
    exact hleft

theorem yields_ofExcept (h : c.connection.Delivering messages) (value : Except Failure α) :
    Yields (Action.ofExcept value c) value [] c.ignoreReply messages :=
  ⟨rfl, rfl, rfl, h⟩

/-- The first message is received, if there is one. -/
theorem yields_receive (h : c.connection.Delivering messages) :
    Yields (onConnection Connection.receive c) (received messages) [] c.ignoreReply
      messages.tail := by
  obtain ⟨did, d, hrun, hsent, hleft⟩ := h.receive
  exact yields_onConnection hrun hsent hleft

/-- A request that can be framed is sent, and takes the first message as its reply. -/
theorem yields_exchange (h : c.connection.Delivering messages) {request : Request} {bytes : Bytes}
    (hframe : request.frame = .ok bytes) :
    Yields (exchange request c) (received messages) bytes c.ignoreReply messages.tail := by
  unfold Request.frame at hframe
  cases hpayload : request.payload with
  | error failure => rw [hpayload] at hframe; exact absurd hframe (by simp)
  | ok payload =>
    rw [hpayload] at hframe
    obtain ⟨did, d, hrun, hsent, hleft⟩ := h.send hframe
    have hsending := yields_onConnection hrun hsent hleft
    rw [exchange, hpayload, ← List.nil_append bytes, ← List.append_nil bytes]
    refine .bind_ok (yields_ofExcept h (.ok payload)) (.bind_ok hsending ?_)
    have hreceipt := yields_receive hsending.left
    rwa [hsending.ignoreReply] at hreceipt

/-- A request that cannot be framed sends and takes nothing. -/
theorem yields_exchange_refused (h : c.connection.Delivering messages) {request : Request}
    {failure : Failure} (hframe : request.frame = .error failure) :
    Yields (exchange request c) (.error failure) [] c.ignoreReply messages := by
  unfold Request.frame at hframe
  cases hpayload : request.payload with
  | error failure' =>
    rw [hpayload] at hframe
    obtain rfl : failure' = failure := Except.error.inj hframe
    rw [exchange, hpayload]
    exact .bind_error (yields_ofExcept h _)
  | ok payload =>
    rw [hpayload] at hframe
    obtain ⟨did, d, hrun, hsent, hleft⟩ := h.send_refused hframe
    rw [exchange, hpayload, ← List.nil_append ([] : Bytes)]
    exact .bind_ok (yields_ofExcept h _) (.bind_error (yields_onConnection hrun hsent hleft))

end Client

end DwmIpc
