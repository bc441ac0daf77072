import DwmIpc.Proofs.Delivery
import DwmIpc.Session

/-!
# What one call comes to

A call of a session is described by the bytes it sends (`Call.wire`, which fails
if the call is refused), whether it waits for a message (`Call.waits`), and how it
answers with that message (`Call.answer`). `Session.yields_step` is the one
statement about a step: on a connection that delivers messages, a call ends as
`Call.outcome` says, sends its bytes, and takes one message or none.
-/

namespace DwmIpc

namespace Call

/-- The request that a call makes, if it makes one; its argument may be refused. -/
def request : Call → Except Failure (Option Request)
  | .runCommand name arguments => .ok (some (.runCommand name arguments))
  | .getMonitors => .ok (some .getMonitors)
  | .getTags => .ok (some .getTags)
  | .getLayouts => .ok (some .getLayouts)
  | .getClient id =>
    match Client.windowId id with
    | .ok window => .ok (some (.getClient window))
    | .error failure => .error failure
  | .subscribe event => .ok (some (.subscribe event))
  | _ => .ok none

/-- The bytes that a call sends, unless it is refused. -/
def wire (call : Call) : Except Failure Bytes :=
  match call.request with
  | .ok none => .ok []
  | .ok (some request) => request.frame
  | .error failure => .error failure

/-- The bytes that a call sends; a call that is refused sends none. -/
def sent (call : Call) : Bytes :=
  match call.wire with
  | .ok bytes => bytes
  | .error _ => []

/-- Is the call refused? -/
def refused (call : Call) : Bool :=
  match call.wire with
  | .ok _ => false
  | .error _ => true

/-- Does the call wait for a message, if it is not refused? -/
def waits : Call → Bool
  | .connect | .close | .enter | .leave | .setIgnoreReply _ | .openReader => false
  | _ => true

/-- Does the call take a message? -/
def takesMessage (call : Call) : Bool :=
  call.waits && !call.refused

/-- The answer of a call that got a message. -/
def answer (ignoreReply : Bool) (call : Call) (m : Message) : Answer :=
  match call with
  | .runCommand .. | .subscribe _ => if ignoreReply then .nothing else .message m
  | _ => .message m

/-- The answer of a call that waits for none. -/
def prompt : Call → Answer
  | .connect | .enter => .itself
  | _ => .nothing

/-- How a call ends when these messages are still to come. -/
def outcome (call : Call) (ignoreReply : Bool) (messages : List Message) : Except Failure Answer :=
  match call.wire with
  | .ok _ =>
    if call.waits then (Connection.received messages).map (call.answer ignoreReply)
    else .ok call.prompt
  | .error failure => .error failure

/-- Are replies ignored after the call? -/
def ignoreReplyAfter (ignoreReply : Bool) : Call → Bool
  | .setIgnoreReply value => value
  | _ => ignoreReply

/-- The messages that a call leaves. -/
def leaves (call : Call) (messages : List Message) : List Message :=
  if call.takesMessage then messages.tail else messages

/-- A call of the client itself that does not close the connection. -/
def Direct : Call → Prop
  | .close | .leave | .openReader | .nextEvent _ => False
  | _ => True

variable {call : Call} {bytes : Bytes} {failure : Failure}

/-- A call whose request has a frame sends it. -/
theorem of_wire_ok (hwire : call.wire = .ok bytes) :
    call.sent = bytes ∧ call.refused = false := by
  unfold sent refused
  rw [hwire]
  exact ⟨rfl, rfl⟩

/-- A call that is not refused has a frame. -/
theorem wire_of_not_refused (h : call.refused = false) : ∃ bytes, call.wire = .ok bytes := by
  unfold refused at h
  cases hwire : call.wire with
  | ok bytes => exact ⟨bytes, rfl⟩
  | error failure => rw [hwire] at h; cases h

/-- A call that waits takes the first message. -/
theorem outcome_of_waits (hwire : call.wire = .ok bytes) (hwaits : call.waits = true) (quiet : Bool)
    (messages : List Message) :
    call.outcome quiet messages = (Connection.received messages).map (call.answer quiet) ∧
      call.leaves messages = messages.tail := by
  unfold outcome leaves takesMessage
  rw [hwire, (of_wire_ok hwire).2, hwaits]
  exact ⟨rfl, rfl⟩

/-- A call that takes a message ends with the first one, and leaves the others. -/
theorem outcome_of_takesMessage (h : call.takesMessage = true) (quiet : Bool)
    (messages : List Message) :
    call.outcome quiet messages = (Connection.received messages).map (call.answer quiet) ∧
      call.leaves messages = messages.tail := by
  rw [takesMessage, Bool.and_eq_true, Bool.not_eq_true'] at h
  obtain ⟨hwaits, hsent⟩ := h
  obtain ⟨bytes, hwire⟩ := wire_of_not_refused hsent
  exact outcome_of_waits hwire hwaits quiet messages

/-- A call that is refused sends nothing and leaves the messages alone. -/
theorem outcome_of_refused (hwire : call.wire = .error failure) (quiet : Bool)
    (messages : List Message) :
    call.outcome quiet messages = .error failure ∧ call.sent = [] ∧
      call.leaves messages = messages := by
  have hrefused : call.refused = true := by rw [refused, hwire]
  unfold outcome sent leaves takesMessage
  rw [hwire, hrefused, Bool.not_true, Bool.and_false]
  exact ⟨rfl, rfl, rfl⟩

/-- Each call that takes a message leaves one message less. -/
theorem drop_leaves (call : Call) (rest : List Call) (messages : List Message) :
    (call.leaves messages).drop (rest.filter takesMessage).length =
      messages.drop ((call :: rest).filter takesMessage).length := by
  unfold leaves
  by_cases htakes : call.takesMessage = true
  · rw [if_pos htakes, List.filter_cons_of_pos htakes, List.length_cons, List.drop_tail]
  · rw [if_neg htakes, List.filter_cons_of_neg htakes]

/-- What a call sends is the frame of its request. -/
theorem wire_of_request {request : Request} (h : call.request = .ok (some request)) :
    call.wire = request.frame := by
  rw [wire, h]

theorem request_getClient {id : Json} {window : Int} (hid : Client.windowId id = .ok window) :
    (getClient id).request = .ok (some (.getClient window)) := by
  rw [request, hid]

/-- A query for what is no window has no frame. -/
theorem wire_getClient_refused {id : Json} (hid : Client.windowId id = .error failure) :
    (getClient id).wire = .error failure := by
  rw [wire, request, hid]

end Call

/-! ## Calls of a client -/

namespace Client

open Connection

variable {α β : Type} {c : Client} {messages : List Message}

/-- A run with its value turned into another. -/
def mapRun (f : α → β) (run : Run Effect Client α) : Run Effect Client β :=
  ⟨run.value.map f, run.did, run.state⟩

theorem Yields.map {run : Run Effect Client α} {value : Except Failure α} {sent : Bytes}
    {quiet : Bool} {left : List Message} (h : Yields run value sent quiet left) (f : α → β) :
    Yields (mapRun f run) (value.map f) sent quiet left :=
  ⟨congrArg (Except.map f) h.value, h.sent, h.ignoreReply, h.left⟩

/-- The reply is taken from the connection also when it is not handed over. -/
theorem yields_exchangeQuietly (h : c.connection.Delivering messages) {request : Request}
    {bytes : Bytes} (hframe : request.frame = .ok bytes) :
    Yields (exchangeQuietly request c)
      ((received messages).map fun m => if c.ignoreReply then none else some m) bytes c.ignoreReply
      messages.tail := by
  have hexchange := yields_exchange h hframe
  cases messages with
  | nil => exact .bind_error hexchange
  | cons m rest =>
    rw [← List.append_nil bytes]
    refine .bind_ok hexchange ?_
    -- the setting is looked at after the exchange, which does not change it
    have hquiet : (exchange request c).state.ignoreReply = c.ignoreReply := hexchange.ignoreReply
    rw [← List.append_nil ([] : Bytes)]
    refine .bind_ok ⟨rfl, rfl, rfl, hexchange.left⟩ ?_
    show Yields ((if (exchange request c).state.ignoreReply then _ else _ :
      Action Effect Client (Option Message)) (exchange request c).state) _ _ _ _
    rw [hquiet]
    by_cases hignore : c.ignoreReply = true
    · rw [if_pos hignore]
      exact ⟨congrArg Except.ok (if_pos hignore).symm, rfl, hquiet, hexchange.left⟩
    · rw [if_neg hignore]
      exact ⟨congrArg Except.ok (if_neg hignore).symm, rfl, hquiet, hexchange.left⟩

/-- A request without a frame fails before anything is sent. -/
theorem yields_exchangeQuietly_refused (h : c.connection.Delivering messages) {request : Request}
    {failure : Failure} (hframe : request.frame = .error failure) :
    Yields (exchangeQuietly request c) (.error failure) [] c.ignoreReply messages :=
  .bind_error (yields_exchange_refused h hframe)

/-- Waiting for an event takes the first message, whatever its type. -/
theorem yields_readEvent (h : c.connection.Delivering messages) :
    Yields (readEvent c) (received messages) [] c.ignoreReply messages.tail := by
  have hreceive := yields_receive h
  cases messages with
  | nil => exact .bind_error hreceive
  | cons m rest =>
    rw [← List.append_nil ([] : Bytes)]
    refine .bind_ok hreceive ?_
    -- a message of another type is logged, and handed over all the same
    by_cases hevent : m.type ≠ MessageType.event.toByte
    · rw [if_pos hevent]
      exact ⟨rfl, rfl, hreceive.ignoreReply, hreceive.left⟩
    · rw [if_neg hevent]
      exact ⟨rfl, rfl, hreceive.ignoreReply, hreceive.left⟩

/-- To connect once more sends nothing and takes no message. -/
theorem yields_connect (h : c.connection.Delivering messages) :
    Yields (connect c) (.ok ()) [] c.ignoreReply messages := by
  obtain ⟨did, d, hrun, hsent, hleft⟩ := h.connect
  exact yields_onConnection hrun hsent hleft

end Client

/-! ## Calls of a session -/

namespace Session

open Client Connection

variable {s : Session} {messages : List Message}

/-- An answer that comes from the client leaves the readers alone. -/
theorem answer_onClient {α : Type} (m : Action Effect Client α) (f : α → Answer) (s : Session) :
    (do return f (← onClient m) : Action Effect Session Answer) s =
      ⟨(mapRun f (m s.client)).value, (mapRun f (m s.client)).did,
        { s with client := (mapRun f (m s.client)).state }⟩ := by
  rw [Action.return_apply, onClient, Action.within, List.map_id]
  rfl

/-- A run that sends a request and waits for the reply, or refuses both, is what the call is said to
come to. -/
theorem yields_request {call : Call} {request : Request}
    (hrequest : call.request = .ok (some request)) (hwaits : call.waits = true)
    {quiet : Bool} {run : Run Effect Client Answer}
    (hsent : ∀ bytes, request.frame = .ok bytes →
      Client.Yields run ((received messages).map (call.answer quiet)) bytes quiet messages.tail)
    (hrefused : ∀ failure, request.frame = .error failure →
      Client.Yields run (.error failure) [] quiet messages) :
    Client.Yields run (call.outcome quiet messages) call.sent quiet (call.leaves messages) := by
  have hwire := Call.wire_of_request hrequest
  cases hframe : request.frame with
  | ok bytes =>
    rw [hframe] at hwire
    obtain ⟨houtcome, hleaves⟩ := Call.outcome_of_waits hwire hwaits quiet messages
    rw [houtcome, hleaves, (Call.of_wire_ok hwire).1]
    exact hsent bytes hframe
  | error failure =>
    rw [hframe] at hwire
    obtain ⟨houtcome, hnone, hleaves⟩ := Call.outcome_of_refused hwire quiet messages
    rw [houtcome, hnone, hleaves]
    exact hrefused failure hframe

/-- A query is answered with the first message. -/
theorem yields_query (h : s.client.connection.Delivering messages) {call : Call} {request : Request}
    (hrequest : call.request = .ok (some request)) (hwaits : call.waits = true)
    (hanswer : ∀ quiet m, call.answer quiet m = .message m) :
    Client.Yields (mapRun .message (exchange request s.client))
      (call.outcome s.client.ignoreReply messages) call.sent s.client.ignoreReply
      (call.leaves messages) := by
  refine yields_request hrequest hwaits (fun bytes hframe => ?_) (fun failure hframe => ?_)
  · rw [funext (hanswer s.client.ignoreReply)]
    exact (yields_exchange h hframe).map _
  · exact (yields_exchange_refused h hframe).map _

/-- A command or a subscription is answered with the first message, or with nothing. -/
theorem yields_quiet (h : s.client.connection.Delivering messages) {call : Call} {request : Request}
    (hrequest : call.request = .ok (some request)) (hwaits : call.waits = true)
    (hanswer : ∀ quiet m, call.answer quiet m = if quiet then .nothing else .message m) :
    Client.Yields (mapRun answerOf (exchangeQuietly request s.client))
      (call.outcome s.client.ignoreReply messages) call.sent s.client.ignoreReply
      (call.leaves messages) := by
  refine yields_request hrequest hwaits (fun bytes hframe => ?_) (fun failure hframe => ?_)
  · rw [funext (hanswer s.client.ignoreReply)]
    have hyields := (yields_exchangeQuietly h hframe).map answerOf
    cases messages with
    | nil => exact hyields
    | cons m rest => cases hq : s.client.ignoreReply <;> rw [hq] at hyields <;> exact hyields
  · exact (yields_exchangeQuietly_refused h hframe).map _

/-- What an action of the client comes to, a call comes to that answers with its value. -/
theorem yields_answer {α : Type} {call : Call} (m : Action Effect Client α) (f : α → Answer)
    (hm : Client.Yields (mapRun f (m s.client)) (call.outcome s.client.ignoreReply messages)
      call.sent (call.ignoreReplyAfter s.client.ignoreReply) (call.leaves messages))
    (hstep : step call = do return f (← onClient m)) :
    ∃ run, step call s = ⟨run.value, run.did, { s with client := run.state }⟩ ∧
      Client.Yields run (call.outcome s.client.ignoreReply messages) call.sent
        (call.ignoreReplyAfter s.client.ignoreReply) (call.leaves messages) := by
  refine ⟨mapRun f (m s.client), ?_, hm⟩
  rw [hstep, answer_onClient]

/-- What a call comes to on a connection that delivers messages. -/
theorem yields_step (h : s.client.connection.Delivering messages) {call : Call}
    (hdirect : call.Direct) :
    ∃ run, step call s = ⟨run.value, run.did, { s with client := run.state }⟩ ∧
      Client.Yields run (call.outcome s.client.ignoreReply messages) call.sent
        (call.ignoreReplyAfter s.client.ignoreReply) (call.leaves messages) := by
  cases call with
  | close | leave | openReader | nextEvent _ => exact hdirect.elim
  | connect | enter => exact yields_answer connect _ ((yields_connect h).map _) rfl
  | setIgnoreReply value =>
    exact yields_answer (setIgnoreReply value) _ ⟨rfl, rfl, rfl, h⟩ rfl
  | runCommand name arguments | subscribe event =>
    exact yields_answer (exchangeQuietly _) _ (yields_quiet h rfl rfl fun _ _ => rfl) rfl
  | getMonitors | getTags | getLayouts =>
    exact yields_answer (exchange _) _ (yields_query h rfl rfl fun _ _ => rfl) rfl
  | readEvent => exact yields_answer readEvent _ ((yields_readEvent h).map _) rfl
  | getClient id =>
    refine yields_answer (getClient id) Answer.message ?_ rfl
    -- the only query whose argument may be refused before there is a request
    cases hid : windowId id with
    | ok window =>
      rw [getClient, hid, Action.ofExcept_ok_bind]
      exact yields_query h (Call.request_getClient hid) rfl fun _ _ => rfl
    | error failure =>
      obtain ⟨houtcome, hsent, hleaves⟩ :=
        Call.outcome_of_refused (Call.wire_getClient_refused hid) s.client.ignoreReply messages
      rw [getClient, hid, Action.ofExcept_error_bind, houtcome, hsent, hleaves]
      exact ⟨rfl, rfl, rfl, h⟩

end Session

end DwmIpc
