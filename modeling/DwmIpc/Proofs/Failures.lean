import DwmIpc.Proofs.Encounters
import DwmIpc.Proofs.Readers
import DwmIpc.Proofs.RequestReply

/-!
# Failures that leave a session

Each call of a session does what a connection does (`Session.ends_step`), so that
the faults that it meets tell how it ends. A failure without a fault is one of the
protocol, the refusal of the call itself (`Call.wire`), or that of a reader that is
finished. Faults that the system reports become failures of the protocol, but for
one case: a socket that does not connect is closed, and a fault of closing it is
passed on as it is. The main result, `Session.failures_tell_faults`, is about each
call of any session on sockets that fail in any way.
-/

namespace DwmIpc

variable {α : Type} {P : Failure → Prop}

/-! ## Clients -/

namespace Client

open Connection (dynamics)

theorem ends_onConnection {m : Action Effect Connection α} {c : Client}
    (hm : dynamics.EndsIn P id id m c.connection) :
    dynamics.EndsIn P connection id (onConnection m) c := by
  rw [Dynamics.EndsIn, onConnection_apply]
  exact hm

theorem ends_log (record : LogRecord) (c : Client) :
    dynamics.EndsIn P connection id (log record) c :=
  .value () (.one (.record _ record))

/-- A request fails in the protocol, with a fault, or because it has no frame. -/
theorem ends_exchange (request : Request) (c : Client) :
    dynamics.EndsIn (fun failure => failure.IsIpc ∨ request.frame = .error failure) connection id
      (exchange request) c := by
  refine .bind (fun _ _ => rfl) (.ofExcept rfl _ c fun failure hpayload => ?_) fun payload hok => ?_
  · rw [Request.frame, hpayload]
    exact .inr rfl
  · have hpayload : request.payload = .ok payload := hok
    refine .bind (fun _ _ => rfl) (ends_onConnection ?_) fun _ _ => ends_onConnection ?_
    · refine (Connection.ends_send _ payload _).mono fun failure hencode => ?_
      rw [Request.frame, hpayload]
      exact .inr hencode
    · exact (Connection.ends_receive _).mono fun _ hipc => .inl hipc

/-- An exchange fails in ways of the protocol, or for want of a frame. -/
theorem ends_exchangeQuietly (request : Request) (c : Client) :
    dynamics.EndsIn (fun failure => failure.IsIpc ∨ request.frame = .error failure) connection id
      (exchangeQuietly request) c := by
  refine .bind (fun _ _ => rfl) (ends_exchange request c) fun reply _ => ?_
  refine .bind (fun _ _ => rfl) (.value _ (.done _)) fun setting _ => ?_
  split
  · exact .bind (fun _ _ => rfl) (ends_log _ _) fun _ _ => .value none (.done _)
  · exact .value (some reply) (.done _)

/-- So does a query for a window. -/
theorem ends_getClient (id' : Json) (c : Client) :
    dynamics.EndsIn (fun failure => failure.IsIpc ∨ (Call.getClient id').wire = .error failure)
      connection id (getClient id') c := by
  cases hid : windowId id' with
  | error failure =>
    rw [Dynamics.EndsIn, getClient, hid, Action.ofExcept_error_bind]
    exact .own (.done _) (.inr (Call.wire_getClient_refused hid))
  | ok window =>
    rw [Dynamics.EndsIn, getClient, hid, Action.ofExcept_ok_bind,
      Call.wire_of_request (Call.request_getClient hid)]
    exact ends_exchange _ c

theorem ends_readEvent (c : Client) : dynamics.EndsIn Failure.IsIpc connection id readEvent c := by
  refine .bind (fun _ _ => rfl) (ends_onConnection (Connection.ends_receive _)) fun message _ => ?_
  by_cases hevent : message.type ≠ MessageType.event.toByte
  · rw [if_pos hevent]
    exact .bind (fun _ _ => rfl) (ends_log _ _) fun _ _ => .value message (.done _)
  · rw [if_neg hevent]
    exact .value message (.done _)

end Client

/-! ## Calls -/

namespace Call

/-- A failure of a call that no fault causes. -/
def Own (call : Call) (failure : Failure) : Prop :=
  failure.IsIpc ∨ call.wire = .error failure ∨
    failure = .finished ∧ ∃ index, call = .nextEvent index

variable {call : Call} {failure : Failure}

/-- Calls that are made of bytes have no other failures of their own but refusals and those of
finished readers. -/
theorem Own.cases (raw : call.OfBytes) (h : call.Own failure) :
    failure.IsIpc ∨ call.Refused failure ∨ failure = .finished ∧ ∃ index, call = .nextEvent index :=
  h.imp id fun h => h.imp (refused_of_wire raw) id

end Call

/-! ## Sessions -/

namespace Session

open DwmIpc.Action (final)
open Connection (dynamics)

/-- The connection of a session. -/
def connection (s : Session) : Connection :=
  s.client.connection

/-- What is made of the value does not change how a call ends. -/
theorem ends_answer {m : Action Effect Client α} {s : Session}
    (hm : dynamics.EndsIn P Client.connection id m s.client) (f : α → Answer) :
    dynamics.EndsIn P connection id (do return f (← onClient m) : Action Effect Session Answer)
      s := by
  unfold Dynamics.EndsIn
  rw [answer_onClient]
  exact hm.map f

/-- A call does what a connection does, and fails as that does or on its own. -/
theorem ends_step (call : Call) (s : Session) :
    dynamics.EndsIn call.Own connection id (step call) s := by
  have hrequest {request : Request} (hwire : call.wire = request.frame) (failure : Failure)
      (h : failure.IsIpc ∨ request.frame = .error failure) : call.Own failure :=
    h.imp id fun hframe => .inl (hwire.trans hframe)
  cases call with
  | connect | enter =>
    exact ends_answer (Client.ends_onConnection (Connection.ends_connect _)) fun _ => Answer.itself
  | close | leave =>
    exact ends_answer (Client.ends_onConnection (Connection.ends_close _)) fun _ => Answer.nothing
  | setIgnoreReply value => exact .value Answer.nothing (.done _)
  | openReader => exact .value _ (.done _)
  | runCommand _ _ | subscribe _ =>
    exact ends_answer ((Client.ends_exchangeQuietly _ _).mono (hrequest rfl)) answerOf
  | getMonitors | getTags | getLayouts =>
    exact ends_answer ((Client.ends_exchange _ _).mono (hrequest rfl)) .message
  | getClient id' =>
    exact ends_answer ((Client.ends_getClient id' _).mono fun _ h => h.imp id .inl) .message
  | readEvent =>
    exact ends_answer ((Client.ends_readEvent _).mono fun _ hipc => Or.inl hipc) .message
  | nextEvent index =>
    have hread : dynamics.EndsIn (Call.nextEvent index).Own Client.connection id
        Client.readEvent s.client :=
      (Client.ends_readEvent s.client).mono fun _ hipc => .inl hipc
    by_cases hready : s.readers[index]? = some .ready
    · unfold Dynamics.EndsIn
      rw [step_nextEvent hready]
      exact hread.map Answer.message
    · unfold Dynamics.EndsIn
      rw [step_nextEvent_finished hready]
      exact .own (.done _) (.inr (.inr ⟨rfl, index, rfl⟩))

/-- The faults that a call meets. -/
def met (call : Call) (s : Session) : List Encounter :=
  Effect.met s.connection.socketAt (step call s).did

/-- How a call goes on sockets that fail as the system reports. -/
structure TellsFaults (path : Text) (call : Call) (s : Session) : Prop where
  /-- A socket that does not connect is closed, and the call fails with its fault; or with the fault
  of closing the socket. -/
  connecting : ∀ p f, ⟨.connect p, f⟩ ∈ met call s →
    p = path ∧ (step call s).state.connection.connected = false ∧
      (∃ front i, (step call s).did = front ++ [.call i (.connect p), .call i .close]) ∧
      ((∃ front, met call s = front ++ [⟨.connect p, f⟩]) ∧
          (step call s).value = .error (.connectFailed p f) ∨
        ∃ front g, met call s = front ++ [⟨.connect p, f⟩, ⟨.close, g⟩] ∧
          (step call s).value = .error (.raised g))
  /-- The call fails with a lasting fault of a reception. -/
  receiving : ∀ n f, ⟨.receive n, f⟩ ∈ met call s → ¬f.isTransient = true →
    (step call s).value = .error (.readFailed f)
  /-- So it does with one of sending. -/
  sending : ∀ offered bytes f, ⟨.send offered bytes, f⟩ ∈ met call s → ¬f.isTransient = true →
    (step call s).value = .error (.writeFailed f)
  /-- To close never fails. -/
  closing : call = .close ∨ call = .leave →
    (step call s).value = .ok .nothing ∧ (step call s).state.connection.connected = false
  /-- There are no other failures but those of the protocol, refusals, and those of readers that are
  finished. -/
  failing : ∀ failure, (step call s).value = .error failure →
    failure.IsIpc ∨ call.Refused failure ∨
      (failure = .finished ∧ ∃ index, call = .nextEvent index) ∨
      ∃ front p f g, met call s = front ++ [⟨.connect p, f⟩, ⟨.close, g⟩] ∧ failure = .raised g

variable {s : Session} {call : Call}

/-- A session whose socket, if one is held, is given up. -/
def retired (s : Session) : Session :=
  let c := s.connection
  { s with client := { s.client with
      connection := { c with retired := c.retired ++ c.held.toList, held := none } } }

/-- If the system reports a fault of closing, it is of no consequence. -/
theorem closes (h : call = .close ∨ call = .leave)
    (system : ∀ f ∈ s.connection.socket.closeFault, f.isSystem = true) :
    (step call s).value = .ok .nothing ∧ (step call s).state = s.retired := by
  obtain ⟨hvalue, hstate⟩ := Connection.close_of_system system
  have hstep : step call s = ⟨((Client.close s.client).value).map fun _ => .nothing,
      (Client.close s.client).did, { s with client := (Client.close s.client).state }⟩ := by
    rcases h with rfl | rfl <;> exact answer_onClient Client.close (fun _ => .nothing) s
  rw [Client.close, Client.onConnection_apply] at hstep
  rw [hstep]
  refine ⟨?_, ?_⟩
  · show (Connection.close s.connection).value.map _ = _
    rw [hvalue]
    rfl
  · show { s with client := { s.client with
      connection := (Connection.close s.connection).state } } = s.retired
    rw [hstate]
    rfl

/-- A call on bytes tells the faults of its sockets. -/
theorem tellsFaults (raw : call.OfBytes)
    (system : ∀ i, (s.connection.socketAt i).Raises fun f => f.isSystem = true) :
    TellsFaults s.connection.path call s := by
  have hends := ends_step call s
  have hverdict : Connection.Verdict call.Own (met call s) (step call s).value :=
    Connection.ends_verdict hends
  obtain ⟨hmet, hleft⟩ := Effect.met_raises system (step call s).did
  refine ⟨?connecting, ?receiving, ?sending, ?closing, ?failing⟩
  case connecting =>
    intro p f hmem
    have hsystem : f.isSystem = true := hmet _ hmem
    obtain ⟨hpath, hnone, hdid⟩ := Connection.refused_of_met hends hmem
    refine ⟨hpath, hnone, hdid hsystem, ?_⟩
    rcases hverdict.of_grave hmem rfl with
      ⟨front, hlast, hvalue⟩ | ⟨front, _, _, g, hx, hlast, hvalue⟩
    · refine .inl ⟨⟨front, hlast⟩, hvalue.trans ?_⟩
      rw [Encounter.failure, SocketCall.failure, Endpoint.failureOf, if_pos hsystem]
    · exact .inr ⟨front, g, hlast, hvalue⟩
  case receiving =>
    intro n f hmem lasting
    have hsystem : f.isSystem = true := hmet _ hmem
    rw [hverdict.of_lasting hmem rfl lasting, SocketCall.failure, Endpoint.failureOf,
      if_pos hsystem]
  case sending =>
    intro n bytes f hmem lasting
    have hsystem : f.isSystem = true := hmet _ hmem
    rw [hverdict.of_lasting hmem rfl lasting, SocketCall.failure, Endpoint.failureOf,
      if_pos hsystem]
  case closing =>
    intro h
    have hclose := (system s.connection.current).close
    rw [Connection.socketAt_current] at hclose
    obtain ⟨hvalue, hstate⟩ := closes h hclose
    exact ⟨hvalue, by rw [hstate]; rfl⟩
  case failing =>
    intro failure hfails
    rw [hfails] at hverdict
    generalize hfaults : met call s = faults at hverdict
    cases hverdict with
    | own _ hown => exact (hown.cases raw).imp id fun h => h.imp id .inl
    | @fault front x _ hgrave =>
      refine .inl (Encounter.isIpc_failure hgrave (hmet x ?_))
      show x ∈ met call s
      rw [hfaults]
      exact List.mem_append_right _ (List.mem_singleton_self x)
    | @twice front p f g _ _ => exact .inr (.inr (.inr ⟨front, p, f, g, rfl, rfl⟩))

/-- Sockets that raise faults of a kind go on doing so, and the path stays the same. -/
theorem raises_final {p : Fault → Prop} (raises : ∀ i, (s.connection.socketAt i).Raises p)
    (calls : List Call) :
    (∀ i, ((final (calls.map step) s).connection.socketAt i).Raises p) ∧
      (final (calls.map step) s).connection.path = s.connection.path := by
  induction calls generalizing s with
  | nil => exact ⟨raises, rfl⟩
  | cons call rest ih =>
    obtain ⟨hsockets, hpath⟩ := Connection.ends_keeps (ends_step call s)
    have hnext : ∀ i, ((step call s).state.connection.socketAt i).Raises p := by
      intro i
      rw [hsockets]
      exact (Effect.met_raises raises (step call s).did).2 i
    obtain ⟨hrest, hsame⟩ := ih hnext
    exact ⟨hrest, hsame.trans hpath⟩

/-- **Failures tell faults.** Let any calls be made of a session, with texts decoded from bytes, on
sockets that fail in any call, but as the system reports it. Each call that finds a socket which
does not connect fails with `connectFailed`, the path and the fault, closes the socket, and leaves
none held; only if closing fails as well is the failure that second fault itself. Each call that
meets a lasting fault of a transfer fails with `readFailed` or `writeFailed` and the fault. To close
never fails. All other failures are of the protocol, or the call was refused since its value names
no window or its payload is too long, or its reader is finished. -/
theorem failures_tell_faults {es : List Endpoint}
    (system : ∀ e ∈ es, e.Raises fun f => f.isSystem = true) (path : Option Text)
    (ignoreReply : Bool) {before after : List Call} {call : Call}
    (raw : ∀ c ∈ before ++ call :: after, c.OfBytes) :
    let start := new (Client.new path es ignoreReply)
    TellsFaults start.connection.path call (final (before.map step) start) := by
  intro start
  have hraises : ∀ i, (start.connection.socketAt i).Raises fun f => f.isSystem = true :=
    Endpoint.Raises.getD system
  obtain ⟨hsockets, hpath⟩ := raises_final hraises before
  have hcall := raw call (List.mem_append_right _ (List.mem_cons_self ..))
  have htells := tellsFaults hcall hsockets
  rwa [hpath] at htells

/-- The fault of closing takes the place of the fault of connecting. -/
theorem fault_of_closing_is_passed_on :
    let e : Endpoint := ⟨[], [], some (.numbered 111 "Connection refused"),
      some (.numbered 5 "Input/output error")⟩
    let start := new (Client.new none [e] false)
    (∀ e' ∈ [e], e'.Raises fun f => f.isSystem = true) ∧
      TellsFaults Connection.defaultPath .connect start ∧
      (step .connect start).value = .error (.raised (.numbered 5 "Input/output error")) := by
  intro e start
  have hsystem : ∀ e' ∈ [e], e'.Raises fun f => f.isSystem = true := by decide
  have hraw : ∀ c ∈ [] ++ Call.connect :: [], c.OfBytes := by
    intro c hc
    obtain rfl := List.mem_singleton.1 hc
    trivial
  exact ⟨hsystem, failures_tell_faults hsystem none false hraw, rfl⟩

end Session

end DwmIpc
