import DwmIpc.Proofs.Calls
import Mathlib.Data.List.Infix

/-!
# A server that answers in order and pushes events

`Serves` lists every output of a server that answers each request with one
message of the request's type, in order, and that pushes events between the
answers once something was subscribed to. The output is two streams in one:
the answers (`Serves.length_replies`: as many as requests) and the events.

A client takes the messages of the output one by one. `InPlace` says that it
takes an event just where it reads one; then the reads get all events
(`InPlace.reads_eq`), and each request gets its own answer (`InPlace.reply_at`).
A client that first subscribes and then reads is in place just if no event
overtakes an answer (`inPlace_iff_of_subscribing`).
-/

namespace DwmIpc

/-! ## The server -/

/-- Is it an event? -/
def Message.isEvent (m : Message) : Bool :=
  m.type == MessageType.event.toByte

/-- The events of an output. -/
def events (output : List Message) : List Message :=
  output.filter Message.isEvent

/-- The answers in an output. -/
def replies (output : List Message) : List Message :=
  output.filter fun m => !m.isEvent

theorem events_cons_event {m : Message} (h : m.isEvent = true) (output : List Message) :
    events (m :: output) = m :: events output :=
  List.filter_cons_of_pos h

theorem events_cons_reply {m : Message} (h : m.isEvent = false) (output : List Message) :
    events (m :: output) = events output :=
  List.filter_cons_of_neg (Bool.not_eq_true _ ▸ h)

theorem replies_cons_event {m : Message} (h : m.isEvent = true) (output : List Message) :
    replies (m :: output) = replies output :=
  List.filter_cons_of_neg (by rw [h]; decide)

theorem replies_cons_reply {m : Message} (h : m.isEvent = false) (output : List Message) :
    replies (m :: output) = m :: replies output :=
  List.filter_cons_of_pos (by rw [h]; decide)

/-- The outputs of a server that is to answer requests of these types; it pushes events only if
something was subscribed to. -/
inductive Serves : (subscribed : Bool) → List MessageType → List Message → Prop
  | done {subscribed : Bool} : Serves subscribed [] []
  | push {requests : List MessageType} {m : Message} {output : List Message} :
      m.isEvent = true → Serves true requests output → Serves true requests (m :: output)
  | reply {subscribed : Bool} {type : MessageType} {requests : List MessageType} {m : Message}
      {output : List Message} : m.type = type.toByte →
      Serves (subscribed || type == .subscribe) requests output →
      Serves subscribed (type :: requests) (m :: output)

/-- An answer has the type of a request, so it is no event. -/
theorem isEvent_of_reply {type : MessageType} {m : Message} (htype : type ≠ .event)
    (h : m.type = type.toByte) : m.isEvent = false := by
  rw [Message.isEvent, h]
  cases type with
  | event => exact absurd rfl htype
  | runCommand | getMonitors | getTags | getLayouts | getClient | subscribe => rfl

/-- There is one answer for each request. -/
theorem Serves.length_replies {subscribed : Bool} {requests : List MessageType}
    {output : List Message} (h : Serves subscribed requests output)
    (hrequests : .event ∉ requests) : (replies output).length = requests.length := by
  induction h with
  | done => rfl
  | push hevent _ ih =>
    -- a pushed event answers nothing
    rw [replies_cons_event hevent]
    exact ih hrequests
  | @reply subscribed type requests m output htype _ ih =>
    have hne : type ≠ .event := by
      rintro rfl
      exact hrequests (List.mem_cons_self ..)
    rw [replies_cons_reply (isEvent_of_reply hne htype), List.length_cons, List.length_cons]
    exact congrArg (· + 1) (ih fun hmem => hrequests (List.mem_cons_of_mem _ hmem))

/-! ## The client's side -/

namespace Call

/-- The type of the request that a call sends, if it sends one. -/
def requestType? (call : Call) : Option MessageType :=
  match call.request with
  | .ok (some request) => if call.refused then none else some request.type
  | _ => none

/-- Does the call send a request? -/
def asks (call : Call) : Bool :=
  call.requestType?.isSome

/-- Does the call wait for a message without asking for one? -/
def reads : Call → Bool
  | .readEvent | .nextEvent _ => true
  | _ => false

/-- No request is an event. -/
theorem event_notMem_requests (calls : List Call) :
    MessageType.event ∉ calls.filterMap requestType? := by
  intro hmem
  obtain ⟨call, -, hcall⟩ := List.mem_filterMap.1 hmem
  unfold requestType? at hcall
  split at hcall
  next request _ =>
    split at hcall
    next => cases hcall
    next =>
      have htype : request.type = .event := Option.some.inj hcall
      cases request <;> cases htype
  next => cases hcall

/-- A call that takes a message either asks for it or reads it. -/
theorem asks_eq (call : Call) : call.asks = (call.takesMessage && !call.reads) := by
  have asking {call : Call} {request : Request} (hrequest : call.request = .ok (some request)) :
      call.asks = !call.refused := by
    unfold asks requestType?
    rw [hrequest]
    cases call.refused <;> rfl
  cases call with
  | connect | close | enter | leave | setIgnoreReply _ | openReader | readEvent | nextEvent _ => rfl
  | runCommand name arguments => rw [asking rfl, takesMessage]; exact (Bool.and_true _).symm
  | subscribe event => rw [asking rfl, takesMessage]; exact (Bool.and_true _).symm
  | getMonitors | getTags | getLayouts => rfl
  | getClient id =>
    cases hid : Client.windowId id with
    | ok window =>
      rw [asking (request_getClient hid), takesMessage]
      exact (Bool.and_true _).symm
    | error failure =>
      have hrequest : (getClient id).request = .error failure := by rw [request, hid]
      have hrefused : (getClient id).refused = true := by
        rw [refused, wire_getClient_refused hid]
      rw [asks, requestType?, hrequest, takesMessage, hrefused]
      rfl

end Call

/-! ## Calls and messages side by side -/

/-- Among the calls that take messages, those at the places of events, and no others, read. -/
def InPlace (takers : List Call) (output : List Message) : Prop :=
  output.map Message.isEvent <+: takers.map Call.reads

/-- Messages are in place if the first one is, and the rest are. -/
theorem InPlace.cons_iff {call : Call} {takers : List Call} {m : Message} {output : List Message} :
    InPlace (call :: takers) (m :: output) ↔ m.isEvent = call.reads ∧ InPlace takers output := by
  rw [InPlace, List.map_cons, List.map_cons, List.cons_prefix_cons]
  exact Iff.rfl

/-- The reads get the events. -/
theorem InPlace.reads_eq {takers : List Call} {output : List Message} (h : InPlace takers output) :
    ((takers.zip output).filter (·.1.reads)).map (·.2) = events output := by
  induction output generalizing takers with
  | nil => rw [List.zip_nil_right]; rfl
  | cons m rest ih =>
    cases takers with
    | nil => exact absurd (List.prefix_nil.1 h) (List.cons_ne_nil _ _)
    | cons call takers =>
      obtain ⟨hplace, hrest⟩ := cons_iff.1 h
      rw [List.zip_cons_cons]
      cases hreads : call.reads with
      | true =>
        rw [List.filter_cons_of_pos (p := fun x : Call × Message => x.1.reads) hreads,
          List.map_cons, ih hrest, events_cons_event (hplace.trans hreads)]
      | false =>
        rw [List.filter_cons_of_neg (by simp [hreads]), ih hrest,
          events_cons_reply (hplace.trans hreads)]

/-- The call that makes the `j`-th request is at the place of the `j`-th answer, if there are enough
answers. -/
theorem InPlace.reply_at {before after : List Call} {call : Call} {output : List Message}
    (h : InPlace (before ++ call :: after) output) (hasks : call.reads = false)
    (enough : ((before ++ call :: after).filter fun c => !c.reads).length ≤
      (replies output).length) :
    ∃ m, output[before.length]? = some m ∧
      (replies output)[(before.filter fun c => !c.reads).length]? = some m := by
  have hasks' : (!call.reads) = true := by rw [hasks]; rfl
  -- along the calls: each read passes an event, each other call an answer
  induction before generalizing output with
  | nil =>
    cases output with
    | nil =>
      rw [List.nil_append, List.filter_cons_of_pos (p := fun c : Call => !c.reads) hasks',
        List.length_cons] at enough
      exact absurd enough (Nat.not_succ_le_zero _)
    | cons m rest =>
      obtain ⟨hplace, -⟩ := cons_iff.1 h
      refine ⟨m, rfl, ?_⟩
      rw [replies_cons_reply (hplace.trans hasks)]
      rfl
  | cons first more ih =>
    cases output with
    | nil =>
      have hpos : 0 < (((first :: more) ++ call :: after).filter fun c => !c.reads).length :=
        List.length_pos_of_mem (List.mem_filter.2 ⟨by simp, hasks'⟩)
      exact absurd enough (Nat.not_le.2 hpos)
    | cons m rest =>
      obtain ⟨hplace, hrest⟩ := cons_iff.1 h
      cases hreads : first.reads with
      | true =>
        have hskip : ¬(!first.reads) = true := by rw [hreads]; decide
        rw [List.cons_append, List.filter_cons_of_neg (p := fun c : Call => !c.reads) hskip,
          replies_cons_event (hplace.trans hreads)] at enough
        rw [List.filter_cons_of_neg (p := fun c : Call => !c.reads) hskip,
          replies_cons_event (hplace.trans hreads)]
        exact ih hrest enough
      | false =>
        have hkeep : (!first.reads) = true := by rw [hreads]; rfl
        rw [List.cons_append, List.filter_cons_of_pos (p := fun c : Call => !c.reads) hkeep,
          replies_cons_reply (hplace.trans hreads), List.length_cons, List.length_cons] at enough
        rw [List.filter_cons_of_pos (p := fun c : Call => !c.reads) hkeep,
          replies_cons_reply (hplace.trans hreads)]
        exact ih hrest (Nat.le_of_succ_le_succ enough)

/-- The answers come first just if the events are all that comes behind them. -/
theorem drop_eq_events_iff {output : List Message} {n : Nat}
    (hreplies : (replies output).length = n) :
    output.drop n = events output ↔ ∀ m ∈ output.take n, m.isEvent = false := by
  have hsplit : events output = events (output.take n) ++ events (output.drop n) := by
    rw [events, events, events, ← List.filter_append, List.take_append_drop]
  constructor
  · -- all events are behind, so none is left for the front
    intro hevents
    have hself : events (output.drop n) = output.drop n :=
      List.filter_eq_self.2 fun m hm => (List.mem_filter.1 (hevents ▸ hm)).2
    rw [← hevents, hself] at hsplit
    have hnone : events (output.take n) = [] := List.self_eq_append_left.1 hsplit
    intro m hm
    exact Bool.eq_false_iff.2 (List.filter_eq_nil_iff.1 hnone m hm)
  · -- the back holds all events, and has just as many places
    intro hfront
    have hnone : events (output.take n) = [] :=
      List.filter_eq_nil_iff.2 fun m hm => Bool.eq_false_iff.1 (hfront m hm)
    have htotal : output.length = (events output).length + (replies output).length :=
      List.length_eq_length_filter_add _
    rw [hnone, List.nil_append] at hsplit
    rw [hsplit]
    refine (List.Sublist.eq_of_length List.filter_sublist ?_).symm
    rw [← events, ← hsplit, List.length_drop]
    omega

/-- The calls that read come last: then the calls are in place just if the answers come first. -/
theorem inPlace_iff_of_subscribing {takers : List Call} {output : List Message}
    {requests reads : Nat}
    (hcalls : takers.map Call.reads = List.replicate requests false ++ List.replicate reads true)
    (hreplies : (replies output).length = requests) (hdrained : output.length ≤ takers.length) :
    InPlace takers output ↔ ∀ m ∈ output.take requests, m.isEvent = false := by
  have hlength : takers.length = requests + reads := by
    rw [← List.length_map (f := Call.reads), hcalls, List.length_append, List.length_replicate,
      List.length_replicate]
  have hle : requests ≤ output.length := hreplies ▸ List.length_filter_le ..
  unfold InPlace
  rw [hcalls]
  constructor
  · intro hplace m hm
    have hfront := List.IsPrefix.take hplace requests
    rw [List.take_left' (List.length_replicate ..), ← List.map_take] at hfront
    exact List.eq_of_mem_replicate (hfront.subset (List.mem_map_of_mem hm))
  · intro hfront
    have hbehind := (drop_eq_events_iff hreplies).2 hfront
    have hanswers : (output.take requests).map Message.isEvent = List.replicate requests false := by
      refine List.eq_replicate_iff.2 ⟨?_, ?_⟩
      · rw [List.length_map, List.length_take_of_le hle]
      · intro b hb
        obtain ⟨m, hm, rfl⟩ := List.mem_map.1 hb
        exact hfront m hm
    have hevents : (output.drop requests).map Message.isEvent
        = List.replicate (output.length - requests) true := by
      refine List.eq_replicate_iff.2 ⟨?_, ?_⟩
      · rw [List.length_map, List.length_drop]
      · intro b hb
        obtain ⟨m, hm, rfl⟩ := List.mem_map.1 hb
        exact (List.mem_filter.1 (hbehind ▸ hm)).2
    rw [← List.take_append_drop requests output, List.map_append, hanswers, hevents,
      List.prefix_append_right_inj]
    refine ⟨List.replicate (reads - (output.length - requests)) true, ?_⟩
    rw [List.replicate_append_replicate]
    congr 1
    omega

end DwmIpc
