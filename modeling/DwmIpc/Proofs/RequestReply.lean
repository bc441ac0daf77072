import DwmIpc.Proofs.WindowIds

/-!
# Replies in line with requests

Calls that are made of bytes are refused for two reasons only, whatever the socket
does: a query for what names no window, and a payload that is too long for a header
(`Call.Refused`, `Call.refused_iff`). A refused call sends nothing and takes no
message. All other calls that wait for a message take one each. The main result,
`Session.calls_take_messages_in_order`, says for every call of a session which
message it takes, how it answers, and what it leaves, and that the bytes sent are
the frames of the requests in order.

The second reason is easily overlooked: a name of so many bytes as a header can
announce has no room left for what stands around it (`Call.refused_of_long_name`).
-/

namespace DwmIpc

open Json

/-! ## Refused calls -/

namespace Call

/-- The texts of the call were decoded from bytes. -/
def OfBytes : Call → Prop
  | .runCommand name arguments => name.IsRaw ∧ ∀ a ∈ arguments, a.IsRaw
  | .subscribe event => event.IsRaw
  | _ => True

/-- A call that is made of bytes: a call of the client itself that does not close the connection,
with texts that were decoded from bytes. -/
def Plain (call : Call) : Prop :=
  call.Direct ∧ call.OfBytes

/-- Why a call is refused: its value names no window, or its payload is too long for a header. -/
inductive Refused : Call → Failure → Prop
  | notWindow {id : Json} {failure : Failure} : (∀ v, ¬NamesWindow id v) →
      id.RefusedWindow failure → Refused (.getClient id) failure
  | tooLong {call : Call} {request : Request} {payload : Bytes} :
      call.request = .ok (some request) → request.payload = .ok payload →
      maxPayloadSize < payload.length → Refused call (.payloadTooLarge payload.length)

variable {call : Call} {request : Request} {payload : Bytes} {failure : Failure}

theorem wire_of_payload (hrequest : call.request = .ok (some request))
    (hpayload : request.payload = .ok payload) :
    call.wire = Message.encode request.type.toByte.toNat payload := by
  rw [wire_of_request hrequest, Request.frame, hpayload]

/-- With a payload there is only one thing left that can go wrong. -/
theorem refused_of_payload (hrequest : call.request = .ok (some request))
    (hpayload : request.payload = .ok payload) (hwire : call.wire = .error failure) :
    call.Refused failure := by
  rw [wire_of_payload hrequest hpayload] at hwire
  rcases Message.encode_cases request.type payload with ⟨-, bytes, hencode⟩ | ⟨hlong, hencode⟩
  · cases hencode.symm.trans hwire
  · obtain rfl := Except.error.inj (hencode.symm.trans hwire)
    exact .tooLong hrequest hpayload hlong

/-- A query for what names no window sends nothing. -/
theorem wire_of_notWindow {id : Json} (h : ∀ v, ¬NamesWindow id v) :
    ∃ failure, id.RefusedWindow failure ∧ (getClient id).wire = .error failure := by
  obtain ⟨failure, hrefused, hid | ⟨n, hid, hpayload⟩⟩ := Client.windowId_refused h
  · exact ⟨failure, hrefused, wire_getClient_refused hid⟩
  · refine ⟨failure, hrefused, ?_⟩
    rw [wire_of_request (request_getClient hid), Request.frame, hpayload]

/-- A call that is made of bytes and has no frame is refused. -/
theorem refused_of_wire (raw : call.OfBytes) (hwire : call.wire = .error failure) :
    call.Refused failure := by
  cases call with
  | connect | close | enter | leave | setIgnoreReply _ | openReader | nextEvent _ | readEvent =>
    cases hwire
  | getMonitors | getTags | getLayouts => exact refused_of_payload rfl rfl hwire
  | runCommand name arguments =>
    obtain ⟨payload, hpayload⟩ :=
      Request.payload_runCommand raw.1.encodable fun a ha => (raw.2 a ha).encodable
    exact refused_of_payload rfl hpayload hwire
  | subscribe event =>
    obtain ⟨payload, hpayload⟩ := Request.payload_subscribe (Text.IsRaw.encodable raw)
    exact refused_of_payload rfl hpayload hwire
  | getClient id =>
    by_cases hnames : ∃ v, NamesWindow id v
    · obtain ⟨v, hnames⟩ := hnames
      obtain ⟨hid, hwritable⟩ := Client.windowId_names hnames
      obtain ⟨payload, hpayload, -⟩ := Request.payload_getClient hwritable
      exact refused_of_payload (request_getClient hid) hpayload hwire
    · have hnone := not_exists.1 hnames
      obtain ⟨reason, hrefused, hreason⟩ := wire_of_notWindow hnone
      obtain rfl := Except.error.inj (hreason.symm.trans hwire)
      exact .notWindow hnone hrefused

/-- A refused call has no frame. -/
theorem Refused.wire (h : call.Refused failure) : ∃ reason, call.wire = .error reason := by
  cases h with
  | notWindow hnone _ =>
    obtain ⟨reason, -, hreason⟩ := wire_of_notWindow hnone
    exact ⟨reason, hreason⟩
  | @tooLong _ request payload hrequest hpayload hlong =>
    rw [wire_of_payload hrequest hpayload]
    rcases Message.encode_cases request.type payload with ⟨hfits, -⟩ | ⟨-, hencode⟩
    · exact absurd hlong (Nat.not_lt.2 hfits)
    · exact ⟨_, hencode⟩

/-- Calls are refused for these reasons only. -/
theorem refused_iff (raw : call.OfBytes) :
    call.refused = true ↔ ∃ failure, call.Refused failure := by
  unfold refused
  constructor
  · intro h
    cases hwire : call.wire with
    | ok bytes =>
      rw [hwire] at h
      cases h
    | error failure => exact ⟨failure, refused_of_wire raw hwire⟩
  · rintro ⟨failure, hrefused⟩
    obtain ⟨reason, hreason⟩ := hrefused.wire
    rw [hreason]

end Call

/-! ## Long names -/

/-- No byte gets lost between quotes. -/
theorem Bytes.length_le_quoted (bytes : Bytes) : bytes.length ≤ (quoted bytes).length := by
  have hsome (byte : UInt8) : 1 ≤ (escapeByte byte).length := by
    unfold escapeByte
    split
    · exact Nat.le_of_ble_eq_true rfl
    · split
      · exact Nat.le_of_ble_eq_true rfl
      · exact Nat.le_refl _
  have hbody : bytes.length ≤ (bytes.flatMap escapeByte).length := by
    induction bytes with
    | nil => exact Nat.le_refl _
    | cons byte rest ih =>
      have hfirst := hsome byte
      rw [List.length_cons, List.flatMap_cons, List.length_append]
      omega
  rw [quoted, List.length_append, List.length_append]
  omega

/-- A name that fills a payload alone is too long, since it stands between quotes. -/
theorem Call.refused_of_long_name {name : Bytes} (h : maxPayloadSize ≤ name.length)
    (arguments : List Bytes) :
    ∃ size, (runCommand (Utf8.decodeEscaping name)
      (arguments.map Utf8.decodeEscaping)).Refused (.payloadTooLarge size) := by
  refine ⟨_, .tooLong rfl (Request.runCommand_bytes name arguments) ?_⟩
  have hopening : 0 < (Bytes.ofAscii "\x7b\"command\":").length := by decide
  have hname := Bytes.length_le_quoted name
  simp only [List.length_append]
  omega

/-! ## Whole sessions -/

namespace Session

open DwmIpc.Action Connection Effect

/-- How a call goes when the calls before it have taken `k` of the messages, and replies to commands
and subscriptions are kept back or not. -/
structure Turn (messages : List Message) (ignoreReply : Bool) (k : Nat) (call : Call)
    (s : Session) : Prop where
  unread : s.Unread ((messages.drop k).flatMap Message.frame)
  takes : call.takesMessage = true → ∀ m, messages[k]? = some m →
    (step call s).value = .ok (call.answer ignoreReply m) ∧
      (step call s).state.Unread ((messages.drop (k + 1)).flatMap Message.frame)
  ends : call.takesMessage = true → messages.length ≤ k →
    (step call s).value = .error (.closedBeforeData headerSize) ∧ (step call s).state.Unread []
  skips : call.takesMessage = false →
    (step call s).state.Unread ((messages.drop k).flatMap Message.frame)
  refuses : call.refused = true → ∃ failure, call.Refused failure ∧
    (step call s).value = .error failure ∧ sentOn 0 (step call s).did = []
  sends : sentOn 0 (step call s).did = call.sent

/-- A call takes the first message that is left, or none. -/
theorem turn_of_delivering {s : Session} {messages : List Message} {k : Nat}
    (h : s.client.connection.Delivering (messages.drop k)) {call : Call} (plain : call.Plain) :
    Turn messages s.client.ignoreReply k call s := by
  obtain ⟨run, hstep, hyields⟩ := yields_step h plain.1
  have hleft : (step call s).state.Unread
      ((call.leaves (messages.drop k)).flatMap Message.frame) := by
    rw [hstep]; exact hyields.left.delivers
  have hvalue : (step call s).value = call.outcome s.client.ignoreReply (messages.drop k) := by
    rw [hstep]; exact hyields.value
  have hsent : sentOn 0 (step call s).did = call.sent := by
    rw [hstep]; exact hyields.sent
  have htaking := fun htakes : call.takesMessage = true =>
    Call.outcome_of_takesMessage htakes s.client.ignoreReply (messages.drop k)
  rw [List.tail_drop] at htaking
  refine ⟨h.delivers, ?_, ?_, ?_, ?_, hsent⟩
  · intro htakes m hm
    obtain ⟨houtcome, hleaves⟩ := htaking htakes
    rw [hleaves] at hleft
    refine ⟨?_, hleft⟩
    rw [hvalue, houtcome, List.drop_eq_getElem?_toList_append, hm]
    rfl
  · intro htakes hover
    obtain ⟨houtcome, hleaves⟩ := htaking htakes
    rw [hleaves, List.drop_of_length_le (Nat.le_succ_of_le hover)] at hleft
    refine ⟨?_, hleft⟩
    rw [hvalue, houtcome, List.drop_of_length_le hover]
    rfl
  · intro hskips
    rwa [Call.leaves, if_neg (by rw [hskips]; decide)] at hleft
  · intro hrefused
    obtain ⟨failure, hrefusal⟩ := (Call.refused_iff plain.2).1 hrefused
    obtain ⟨reason, hwire⟩ := hrefusal.wire
    obtain ⟨houtcome, hnone, -⟩ :=
      Call.outcome_of_refused hwire s.client.ignoreReply (messages.drop k)
    exact ⟨reason, Call.refused_of_wire plain.2 hwire, hvalue.trans houtcome, hsent.trans hnone⟩

/-- A command whose name is too long sends nothing and takes no message. -/
theorem step_of_long_name {s : Session} {messages : List Message}
    (h : s.client.connection.Delivering messages) {name : Bytes}
    (hlong : maxPayloadSize ≤ name.length) :
    let run := step (.runCommand (Utf8.decodeEscaping name) []) s
    (∃ size, maxPayloadSize < size ∧ run.value = .error (.payloadTooLarge size)) ∧
      run.state.Unread (messages.flatMap Message.frame) ∧ sentOn 0 run.did = [] := by
  have plain : (Call.runCommand (Utf8.decodeEscaping name) []).Plain :=
    ⟨trivial, ⟨name, rfl⟩, fun a ha => absurd ha List.not_mem_nil⟩
  obtain ⟨size, hrefused⟩ := Call.refused_of_long_name hlong []
  have hturn := turn_of_delivering (k := 0) h plain
  have hrefuses := (Call.refused_iff plain.2).2 ⟨_, hrefused⟩
  obtain ⟨failure, hrefusal, hvalue, hnone⟩ := hturn.refuses hrefuses
  refine ⟨?_, hturn.skips ?_, hnone⟩
  · cases hrefusal with
    | tooLong _ _ htoo => exact ⟨_, htoo, hvalue⟩
  · rw [Call.takesMessage, hrefuses, Bool.not_true, Bool.and_false]

/-- **Replies in line with requests.** Let a socket connect, accept what is sent in any portions,
and deliver the frames of some messages, cut anywhere and with transient faults in between. In any
sequence of calls, the call with `k` message-taking calls before it takes just the `k`-th message,
and answers with it or, if replies are kept back, with nothing; when the messages are used up, it
fails.
Every call takes a message, except those that wait for none and those that are refused: queries for
what names no window, which do nothing at all, and requests with a payload that no header can
announce, which send nothing. What is sent is the frames of the requests in order. -/
theorem calls_take_messages_in_order {messages : List Message} (fits : ∀ m ∈ messages, m.Fits)
    {e : Endpoint} (delivers : Incoming.Delivers e.incoming (messages.flatMap Message.frame))
    (connects : e.connectFault = none) (patient : Outgoing.Tolerant e.outgoing)
    (path : Option Text) (ignoreReply : Bool) {calls : List Call}
    (plain : ∀ call ∈ calls, call.Plain) :
    let start := new (Client.new path [e] ignoreReply)
    (∀ before call after, calls = before ++ call :: after →
      Turn messages (before.foldl Call.ignoreReplyAfter ignoreReply)
        (before.filter Call.takesMessage).length call (final (before.map step) start)) ∧
    (∀ call ∈ calls,
      (call.takesMessage = true ↔ call.waits = true ∧ ∀ failure, ¬call.Refused failure) ∧
      (call.refused = true ↔ ∃ failure, call.Refused failure)) ∧
    (∀ id, (∀ v, ¬NamesWindow id v) → ∃ failure, id.RefusedWindow failure ∧
      ∀ s, step (.getClient id) s = ⟨.error failure, [], s⟩) ∧
    sentOn 0 ((transcript (calls.map step) start).flatMap (·.did)) = calls.flatMap Call.sent := by
  intro start
  have hstart : start.client.connection.Delivering messages :=
    delivering_new fits delivers connects patient path ignoreReply
  have hdirect : ∀ call ∈ calls, call.Direct := fun call hcall => (plain call hcall).1
  refine ⟨?_, ?_, fun id h => step_refused h, (delivering_final hstart hdirect).2.2⟩
  · intro before call after hcalls
    subst hcalls
    obtain ⟨hleft, hquiet, -⟩ := delivering_final hstart
      (fun c hc => hdirect c (List.mem_append_left _ hc))
    have hturn := turn_of_delivering hleft
      (plain call (List.mem_append_right _ (List.mem_cons_self ..)))
    rwa [hquiet] at hturn
  · intro call hcall
    have hrefused := Call.refused_iff (plain call hcall).2
    refine ⟨?_, hrefused⟩
    rw [← not_exists, ← hrefused, Call.takesMessage]
    simp

/-- An event after a command whose reply is kept back, and after a query that is refused. -/
theorem event_after_quiet_command :
    let messages : List Message := [⟨0, []⟩, ⟨6, [123, 125]⟩]
    let bytes := messages.flatMap Message.frame
    let e : Endpoint := ⟨[.chunk (bytes.take 9), .fault (.numbered 11 []), .chunk (bytes.drop 9)],
      [.room 0, .fault (.numbered 4 []), .room 3], none, none⟩
    let before : List Call :=
      [.setIgnoreReply true, .runCommand [.scalar 'a'] [], .getClient .null]
    Incoming.Delivers e.incoming bytes ∧
      (step .readEvent (final (before.map step) (new (Client.new none [e] false)))).value =
        .ok (.message ⟨6, [123, 125]⟩) := by
  intro messages bytes e before
  have hdelivers : Incoming.Delivers e.incoming bytes := .in_two (by decide) (by decide) rfl
  have hpatient : Outgoing.Tolerant e.outgoing := .room 0 (.retry rfl (.room 3 .nil))
  have hplain : ∀ call ∈ before ++ [.readEvent], call.Plain := by
    intro call hcall
    simp only [before, List.cons_append, List.nil_append, List.mem_cons, List.not_mem_nil,
      or_false] at hcall
    rcases hcall with rfl | rfl | rfl | rfl
    · exact ⟨trivial, trivial⟩
    · exact ⟨trivial, ⟨[97], by decide⟩, fun a ha => absurd ha List.not_mem_nil⟩
    · exact ⟨trivial, trivial⟩
    · exact ⟨trivial, trivial⟩
  obtain ⟨hturn, -⟩ :=
    calls_take_messages_in_order (by decide) hdelivers rfl hpatient none false hplain
  have hlast := hturn before .readEvent [] rfl
  exact ⟨hdelivers, (hlast.takes rfl ⟨6, [123, 125]⟩ (by decide)).1⟩

/-- Two calls that take no message though one is there, and neither is a query for what is no
number: a command whose name has `2 ^ 32` bytes, and a query for window 7 with 4300 zeros in
front. -/
theorem refused_requests_take_no_message :
    let m : Message := ⟨0, []⟩
    let e : Endpoint := ⟨[.chunk m.frame], [], none, none⟩
    let s := new (Client.new none [e] false)
    let command : Call := .runCommand (Utf8.decodeEscaping (List.replicate (2 ^ 32) 0x61)) []
    let window : Text := List.replicate 4300 (.scalar '0') ++ [.scalar '7']
    Incoming.Delivers e.incoming m.frame ∧
      ((∃ size, maxPayloadSize < size ∧ (step command s).value = .error (.payloadTooLarge size)) ∧
        (step command s).state.Unread m.frame ∧ sentOn 0 (step command s).did = []) ∧
      window.isUnsignedInt = true ∧
        step (.getClient (.str window)) s = ⟨.error (.tooManyDigits 4301), [], s⟩ := by
  intro m e s command window
  have hframe : Incoming.Delivers e.incoming (m.frame ++ []) := .chunk (by decide) .done
  rw [List.append_nil] at hframe
  have hstart : s.client.connection.Delivering [m] :=
    delivering_new (by decide) hframe rfl .nil none false
  have hlong : maxPayloadSize ≤ (List.replicate (2 ^ 32) (0x61 : UInt8)).length := by
    rw [List.length_replicate]
    decide
  have hdigits : Text.AllDigits (List.replicate 4300 '0' ++ ['7']) :=
    (Text.allDigits_replicate_zero _).append (List.forall_mem_singleton.2 rfl)
  have hspelled : window = (List.replicate 4300 '0' ++ ['7']).map .scalar := by
    rw [List.map_append, List.map_replicate]
    rfl
  have hunsigned : window.isUnsignedInt = true :=
    Text.isUnsignedInt_iff.2
      ⟨_, List.append_ne_nil_of_right_ne_nil _ (by decide), hdigits, hspelled⟩
  have hlength : window.length = 4301 := by
    rw [List.length_append, List.length_replicate]
    rfl
  refine ⟨hframe, step_of_long_name hstart hlong, hunsigned, ?_⟩
  have hid := CommandLine.Task.windowId_digits hunsigned
  rw [hlength, if_neg (by decide)] at hid
  rw [step, answer_onClient, Client.getClient, hid, Action.ofExcept_error_bind]
  rfl

end Session

end DwmIpc
