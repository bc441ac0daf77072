import DwmIpc.Proofs.Failures
import DwmIpc.Proofs.Streaming

/-!
# Readers that share one stream

Events are read through any number of readers, and without one, over the same
socket. A script feeds some messages (`Incoming.Feeds`) if it delivers their frames
and no whole frame behind them, however it ends; every script feeds some
(`Incoming.exists_feeds`). A read takes the next message, whoever reads
(`Session.fed_read`), so that the reads take the messages in order as long as they
succeed (`Session.progress`). Behind a failure bytes that are no message may be
left; but a reader that failed is finished and stays so, whatever is called
(`Session.finished_final`). The main result is `Session.readers_share_stream`.
-/

namespace DwmIpc

open DwmIpc.Action Incoming

/-! ## Streams -/

namespace Incoming

/-- The script delivers the frames of the messages, cut anywhere, and no whole frame behind them: it
ends there or in the middle of a frame, with other bytes, or with a fault. -/
def Feeds (incoming : List Incoming) (messages : List Message) : Prop :=
  ∃ tail refusal, flow incoming = messages.flatMap Message.frame ++ tail ∧
    Message.decode tail = .error refusal

/-- Any bytes are the frames of some messages, and something else behind them. -/
theorem exists_frames (data : Bytes) :
    ∃ (messages : List Message) (tail : Bytes) (refusal : Failure), (∀ m ∈ messages, m.Fits) ∧
      data = messages.flatMap Message.frame ++ tail ∧ Message.decode tail = .error refusal := by
  induction hlength : data.length using Nat.strongRecOn generalizing data with
  | ind length ih =>
    cases hdecode : Message.decode data with
    | error refusal =>
      exact ⟨[], data, refusal, fun _ hm => absurd hm List.not_mem_nil, rfl, hdecode⟩
    | ok m =>
      obtain ⟨hfits, hframe, hlong⟩ := Message.frame_of_decode hdecode
      -- the frame is taken off, and what is behind it is shorter
      have hshorter : (data.drop (headerSize + m.payload.length)).length < length := by
        rw [List.length_drop, headerSize]
        rw [headerSize] at hlong
        omega
      obtain ⟨messages, tail, refusal, hfit, hdata, hend⟩ := ih _ hshorter _ rfl
      refine ⟨m :: messages, tail, refusal, ?_, ?_, hend⟩
      · intro m' hm'
        rcases List.mem_cons.1 hm' with rfl | hmem
        · exact hfits
        · exact hfit m' hmem
      · rw [List.flatMap_cons, List.append_assoc, ← hdata, hframe, List.take_append_drop]

/-- So every script feeds some messages. -/
theorem exists_feeds (incoming : List Incoming) :
    ∃ messages : List Message, (∀ m ∈ messages, m.Fits) ∧ Feeds incoming messages := by
  obtain ⟨messages, tail, refusal, hfits, hflow, hend⟩ := exists_frames (flow incoming)
  exact ⟨messages, hfits, tail, refusal, hflow, hend⟩

end Incoming

namespace Endpoint

variable {e : Endpoint} {m : Message} {messages : List Message}

/-- A read takes the first message, and leaves the others. -/
theorem readMessage_feeds (fits : m.Fits) (h : Feeds e.incoming (m :: messages)) :
    ∃ did left, readMessage e = ⟨.ok m, did, { e with incoming := left }⟩ ∧
      Feeds left messages := by
  obtain ⟨tail, refusal, hflow, hend⟩ := h
  rw [List.flatMap_cons, List.append_assoc] at hflow
  obtain ⟨did, left, hrun, hleft, -⟩ := readMessage_frame fits hflow
  exact ⟨did, left, hrun, tail, refusal, hleft, hend⟩

/-- Behind the last message a read fails. -/
theorem readMessage_feeds_nil (h : Feeds e.incoming []) :
    ∃ failure did left, readMessage e = ⟨.error failure, did, { e with incoming := left }⟩ := by
  obtain ⟨tail, refusal, hflow, hend⟩ := h
  rw [List.flatMap_nil, List.nil_append] at hflow
  exact readMessage_undecoded (hflow ▸ hend)

end Endpoint

/-! ## Connections -/

namespace Connection

/-- The socket in use, or the next one, can be connected and feeds these messages. -/
structure Fed (c : Connection) (messages : List Message) : Prop where
  connects : c.held = none → c.socket.connectFault = none
  fits : ∀ m ∈ messages, m.Fits
  feeds : Feeds c.socket.incoming messages

variable {c : Connection} {messages : List Message}

/-- A receipt takes the first message, or fails if there is none. -/
theorem Fed.receive (h : c.Fed messages) :
    (∃ failure, (Connection.receive c).value = next failure messages) ∧
      (messages ≠ [] → (Connection.receive c).state.Fed messages.tail) := by
  obtain ⟨did, d, hrun, -, hheld, -⟩ := onSocket_socket h.connects Endpoint.readMessage
  have hreceive : Connection.receive c = _ := hrun
  rw [hreceive]
  have hfeeds := h.feeds
  cases messages with
  | nil =>
    obtain ⟨failure, _, _, hread⟩ := Endpoint.readMessage_feeds_nil hfeeds
    exact ⟨⟨failure, congrArg Run.value hread⟩, fun hne => absurd rfl hne⟩
  | cons m rest =>
    obtain ⟨_, left, hread, hleft⟩ :=
      Endpoint.readMessage_feeds (h.fits m (List.mem_cons_self ..)) hfeeds
    rw [hread] at hheld ⊢
    refine ⟨⟨.finished, rfl⟩, fun _ => ⟨fun hnone => ?_, ?_, ?_⟩⟩
    · rw [hnone] at hheld
      cases hheld
    · exact fun m' hm' => h.fits m' (List.mem_cons_of_mem _ hm')
    · rw [socket, hheld, Option.getD_some]
      exact hleft

end Connection

/-! ## Reads -/

namespace Client

/-- To wait for an event is a receipt, with records at most behind it. -/
theorem readEvent_eq (c : Client) :
    ∃ records : List LogRecord, readEvent c =
      ⟨(Connection.receive c.connection).value,
        (Connection.receive c.connection).did ++ records.map .log,
        { c with connection := (Connection.receive c.connection).state }⟩ := by
  have hreceive := onConnection_apply Connection.receive c
  cases hvalue : (Connection.receive c.connection).value with
  | error failure =>
    rw [hvalue] at hreceive
    refine ⟨[], ?_⟩
    rw [readEvent, Action.bind_error hreceive, List.map_nil, List.append_nil]
  | ok message =>
    rw [hvalue] at hreceive
    rw [readEvent, Action.bind_ok hreceive]
    -- a message of another type is recorded, and handed over all the same
    by_cases hevent : message.type ≠ MessageType.event.toByte
    · rw [if_pos hevent]
      exact ⟨[_], rfl⟩
    · rw [if_neg hevent]
      exact ⟨[], rfl⟩

end Client

namespace Call

/-- The call reads an event or opens a reader. -/
def Listens : Call → Prop
  | .readEvent | .openReader | .nextEvent _ => True
  | _ => False

/-- Does the call open a reader? -/
def opens : Call → Bool
  | .openReader => true
  | _ => false

/-- The reader of the call, if it has one, is ready. -/
def IsOpen (s : Session) : Call → Prop
  | .nextEvent index => s.readers[index]? = some .ready
  | _ => True

end Call

namespace Session

variable {s : Session} {messages : List Message} {call : Call} {calls : List Call}

/-- All calls that read do the same, through a reader that is ready or without one. -/
theorem step_reads (hreads : call.reads = true) (hopen : call.IsOpen s) :
    (step call s).value = (Client.readEvent s.client).value.map .message ∧
      (step call s).did = (Client.readEvent s.client).did ∧
      (step call s).state.client = (Client.readEvent s.client).state := by
  cases call with
  | readEvent =>
    have hstep : step .readEvent s = _ := answer_onClient Client.readEvent Answer.message s
    rw [hstep]
    exact ⟨rfl, rfl, rfl⟩
  | nextEvent index =>
    rw [step_nextEvent hopen]
    exact ⟨rfl, rfl, rfl⟩
  | _ => cases hreads

/-- A call that only listens sends nothing. -/
theorem silent_step (listens : call.Listens) (s : Session) (n : Nat) :
    Effect.sentOn n (step call s).did = [] := by
  have hread (hreads : call.reads = true) (hopen : call.IsOpen s) :
      Effect.sentOn n (step call s).did = [] := by
    obtain ⟨records, hevent⟩ := Client.readEvent_eq s.client
    have hrecords : Effect.sentOn n (records.map .log) = [] :=
      Effect.sentOn_of_calls (by simp [Effect.calls, List.filterMap_map]) n
    rw [(step_reads hreads hopen).2.1, hevent, Effect.sentOn_append, Connection.silent_receive,
      hrecords]
    rfl
  cases call with
  | readEvent => exact hread rfl trivial
  | openReader => rfl
  | nextEvent index =>
    by_cases hready : s.readers[index]? = some .ready
    · exact hread rfl hready
    · rw [step_nextEvent_finished hready]
      rfl
  | _ => exact listens.elim

/-- The connection of the session feeds messages. -/
abbrev Fed (s : Session) (messages : List Message) : Prop :=
  s.connection.Fed messages

/-- A read takes the first message, whoever reads, or fails if there is none. -/
theorem fed_read (h : s.Fed messages) (hreads : call.reads = true) (hopen : call.IsOpen s) :
    (∀ m rest, messages = m :: rest →
      (step call s).value = .ok (.message m) ∧ (step call s).state.Fed rest) ∧
      (messages = [] → ∃ failure, (step call s).value = .error failure) := by
  obtain ⟨hvalue, -, hclient⟩ := step_reads hreads hopen
  obtain ⟨records, hevent⟩ := Client.readEvent_eq s.client
  obtain ⟨⟨failure, hreceived⟩, hleft⟩ := h.receive
  have hconnection : (step call s).state.connection
      = (Connection.receive s.connection).state := by
    rw [connection, hclient, hevent]
    rfl
  have hfirst : (step call s).value = (Connection.next failure messages).map .message := by
    rw [hvalue, hevent]
    exact congrArg _ hreceived
  refine ⟨?_, ?_⟩
  · rintro m rest rfl
    refine ⟨hfirst, ?_⟩
    rw [Fed, hconnection]
    exact hleft (List.cons_ne_nil _ _)
  · rintro rfl
    exact ⟨failure, hfirst⟩

/-! ## Readers -/

/-- A reader is finished by its own failure; to advance it changes no other one. -/
theorem readers_nextEvent (index : Nat) (s : Session) :
    (step (.nextEvent index) s).state.readers =
      match (step (.nextEvent index) s).value with
      | .ok _ => s.readers
      | .error _ => s.readers.set index .finished := by
  by_cases hready : s.readers[index]? = some .ready
  · rw [step_nextEvent hready]
    cases (Client.readEvent s.client).value <;> rfl
  · rw [step_nextEvent_finished hready]
    show s.readers = s.readers.set index .finished
    refine (List.ext_getElem? fun i => ?_).symm
    rw [List.getElem?_set]
    by_cases hi : index = i
    · -- the reader is finished already, or there is none
      subst hi
      rw [if_pos rfl]
      cases hreader : s.readers[index]? with
      | none => rw [if_neg (Nat.not_lt.2 (List.getElem?_eq_none_iff.1 hreader))]
      | some reader =>
        cases reader with
        | ready => exact absurd hreader hready
        | finished => rw [if_pos (List.getElem?_eq_some_iff.1 hreader).1]
    · rw [if_neg hi]

/-- No other call changes a reader that is there. -/
theorem readers_step (hcall : ∀ index, call ≠ .nextEvent index) (s : Session) :
    (step call s).state.readers = s.readers ++ if call.opens then [.ready] else [] := by
  have hanswer {α : Type} (m : Action Effect Client α) (f : α → Answer) :
      ((do return f (← onClient m) : Action Effect Session Answer) s).state.readers
        = s.readers ++ [] := by
    rw [answer_onClient, List.append_nil]
  cases call with
  | nextEvent index => exact absurd rfl (hcall index)
  | openReader => rfl
  | connect | enter => exact hanswer Client.connect fun _ => .itself
  | close | leave => exact hanswer Client.close fun _ => .nothing
  | setIgnoreReply value => exact hanswer (Client.setIgnoreReply value) fun _ => .nothing
  | runCommand name arguments => exact hanswer (Client.runCommand name arguments) answerOf
  | subscribe event => exact hanswer (Client.subscribe event) answerOf
  | getMonitors | getTags | getLayouts => exact hanswer (Client.exchange _) .message
  | getClient id' => exact hanswer (Client.getClient id') .message
  | readEvent => exact hanswer Client.readEvent .message

/-- A reader that is finished stays so. -/
theorem finished_step {index : Nat} (h : s.readers[index]? = some .finished) (call : Call) :
    (step call s).state.readers[index]? = some .finished := by
  have hindex : index < s.readers.length := (List.getElem?_eq_some_iff.1 h).1
  by_cases hcall : ∃ i, call = .nextEvent i
  · obtain ⟨i, rfl⟩ := hcall
    rw [readers_nextEvent]
    split
    · exact h
    · rw [List.getElem?_set]
      split
      next hi =>
        subst hi
        rw [if_pos hindex]
      next => exact h
  · rw [readers_step (fun i hi => hcall ⟨i, hi⟩), List.getElem?_append_left hindex]
    exact h

/-- Whatever is called. -/
theorem finished_final {index : Nat} (h : s.readers[index]? = some .finished)
    (calls : List Call) : (final (calls.map step) s).readers[index]? = some .finished := by
  induction calls generalizing s with
  | nil => exact h
  | cons call rest ih => exact ih (finished_step h call)

/-- A reader that fails is finished. -/
theorem finished_of_fails {index : Nat} (hindex : index < s.readers.length) {failure : Failure}
    (hfails : (step (.nextEvent index) s).value = .error failure) :
    (step (.nextEvent index) s).state.readers[index]? = some .finished := by
  rw [readers_nextEvent, hfails]
  exact List.getElem?_set_self hindex

/-! ## Runs -/

/-- All of the calls succeed. -/
def Succeed (calls : List Call) (s : Session) : Prop :=
  ∀ run ∈ transcript (calls.map step) s, ∃ answer, run.value = .ok answer

/-- A call that succeeds reads through an open reader. -/
theorem isOpen_of_ok {answer : Answer} (hok : (step call s).value = .ok answer) :
    call.IsOpen s := by
  cases call with
  | nextEvent index =>
    by_cases hready : s.readers[index]? = some .ready
    · exact hready
    · rw [step_nextEvent_finished hready] at hok
      cases hok
  | _ => trivial

/-- How far calls that succeed have come: the reads among them have taken the first messages, in
order, and no reader is lost. -/
structure Progress (messages : List Message) (calls : List Call) (s : Session) : Prop where
  le : (calls.filter Call.reads).length ≤ messages.length
  fed : (final (calls.map step) s).Fed (messages.drop (calls.filter Call.reads).length)
  surfaced_eq : surfaced calls s = messages.take (calls.filter Call.reads).length
  readers_eq : (final (calls.map step) s).readers =
    s.readers ++ List.replicate (calls.countP Call.opens) .ready

namespace Progress

/-- A read takes one message more. -/
theorem read {m : Message} (hreads : call.reads = true)
    (hvalue : (step call s).value = .ok (.message m))
    (hreaders : (step call s).state.readers = s.readers) (hopens : call.opens = false)
    (h : Progress messages calls (step call s).state) :
    Progress (m :: messages) (call :: calls) s := by
  have hcount : ((call :: calls).filter Call.reads).length
      = (calls.filter Call.reads).length + 1 := by
    rw [List.filter_cons_of_pos hreads, List.length_cons]
  refine ⟨?_, ?_, ?_, ?_⟩
  · rw [hcount]
    exact Nat.succ_le_succ h.le
  · rw [hcount, List.drop_succ_cons]
    exact h.fed
  · rw [hcount, List.take_succ_cons, surfaced, if_pos hreads, hvalue, h.surfaced_eq]
    rfl
  · rw [List.countP_cons_of_neg (by rw [hopens]; decide), ← hreaders]
    exact h.readers_eq

/-- Another reader is opened. -/
theorem opened (h : Progress messages calls (step .openReader s).state) :
    Progress messages (.openReader :: calls) s := by
  refine ⟨h.le, h.fed, h.surfaced_eq, h.readers_eq.trans ?_⟩
  show s.readers ++ [.ready] ++ _ = _
  rw [List.countP_cons_of_pos rfl, List.replicate_succ, List.append_assoc]
  rfl

end Progress

/-- As long as the calls succeed, the reads take the messages in order. -/
theorem progress (h : s.Fed messages) (listens : ∀ call ∈ calls, call.Listens)
    (succeed : Succeed calls s) : Progress messages calls s := by
  induction calls generalizing s messages with
  | nil => exact ⟨Nat.zero_le _, h, rfl, (List.append_nil _).symm⟩
  | cons call rest ih =>
    obtain ⟨answer, hok⟩ := succeed _ (List.mem_cons_self ..)
    have hrest : ∀ c ∈ rest, c.Listens := fun c hc => listens c (List.mem_cons_of_mem _ hc)
    have hsucceed : Succeed rest (step call s).state :=
      fun run hrun => succeed run (List.mem_cons_of_mem _ hrun)
    have hread (hreads : call.reads = true) (hopens : call.opens = false)
        (hreaders : (step call s).state.readers = s.readers) :
        Progress messages (call :: rest) s := by
      obtain ⟨hsome, hnone⟩ := fed_read h hreads (isOpen_of_ok hok)
      cases messages with
      | nil =>
        obtain ⟨failure, hfails⟩ := hnone rfl
        rw [hfails] at hok
        cases hok
      | cons m left =>
        obtain ⟨hvalue, hleft⟩ := hsome m left rfl
        exact .read hreads hvalue hreaders hopens (ih hleft hrest hsucceed)
    cases call with
    | readEvent => exact hread rfl rfl ((readers_step (by simp) s).trans (List.append_nil _))
    | nextEvent index =>
      have hreaders := readers_nextEvent index s
      rw [hok] at hreaders
      exact hread rfl rfl hreaders
    | openReader =>
      have hfed : (step .openReader s).state.Fed messages := h
      exact .opened (ih hfed hrest hsucceed)
    | _ => exact (listens _ (List.mem_cons_self ..)).elim

/-- Through a reader that is finished nothing surfaces. -/
theorem surfaced_finished {index : Nat} (h : s.readers[index]? = some .finished)
    (single : ∀ call ∈ calls, call = .openReader ∨ call = .nextEvent index) :
    surfaced calls s = [] := by
  induction calls generalizing s with
  | nil => rfl
  | cons call rest ih =>
    have hrest := ih (finished_step h call) fun c hc => single c (List.mem_cons_of_mem _ hc)
    rw [surfaced, hrest, List.append_nil]
    rcases single call (List.mem_cons_self ..) with rfl | rfl
    · rfl
    · rw [step_nextEvent_finished (by rw [h]; decide)]
      rfl

/-- Through a single reader only messages surface, and the first of them first; behind a failure
nothing does. -/
theorem surfaced_prefix (h : s.Fed messages) {index : Nat}
    (single : ∀ call ∈ calls, call = .openReader ∨ call = .nextEvent index) :
    surfaced calls s <+: messages := by
  induction calls generalizing s messages with
  | nil => exact List.nil_prefix
  | cons call rest ih =>
    have hrest : ∀ c ∈ rest, c = .openReader ∨ c = .nextEvent index :=
      fun c hc => single c (List.mem_cons_of_mem _ hc)
    rcases single call (List.mem_cons_self ..) with rfl | rfl
    · have hfed : (step .openReader s).state.Fed messages := h
      exact ih hfed hrest
    · by_cases hready : s.readers[index]? = some .ready
      · have hreads : (Call.nextEvent index).reads = true := rfl
        obtain ⟨hsome, hnone⟩ := fed_read h hreads hready
        rw [surfaced, if_pos hreads]
        cases messages with
        | nil =>
          obtain ⟨failure, hfails⟩ := hnone rfl
          have hindex : index < s.readers.length := (List.getElem?_eq_some_iff.1 hready).1
          rw [hfails, surfaced_finished (finished_of_fails hindex hfails) hrest]
          exact List.nil_prefix
        | cons m left =>
          obtain ⟨hvalue, hleft⟩ := hsome m left rfl
          rw [hvalue]
          exact (List.prefix_cons_inj m).2 (ih hleft hrest)
      · -- the reader is not there yet, or finished already
        rw [surfaced, step_nextEvent_finished hready]
        exact ih h hrest

/-- How calls that listen share the messages that one socket feeds. -/
structure Shares (messages : List Message) (s : Session) (calls : List Call) : Prop where
  /-- As long as no call fails, the reads hand over the messages in order, each of them once. -/
  inOrder : ∀ before after, calls = before ++ after → Succeed before s →
    let taken := (before.filter Call.reads).length
    taken ≤ messages.length ∧ surfaced before s = messages.take taken
  /-- The readers that were ready are, and so are those that were opened since. -/
  ready : ∀ before after, calls = before ++ after → Succeed before s →
    (final (before.map step) s).readers =
      s.readers ++ List.replicate (before.countP Call.opens) .ready
  /-- The next read takes the message at its place, and fails if there is none. -/
  turn : ∀ before call after, calls = before ++ call :: after → Succeed before s →
    let here := final (before.map step) s
    let taken := (before.filter Call.reads).length
    call.reads = true → call.IsOpen here →
      (∀ m, messages[taken]? = some m → (step call here).value = .ok (.message m)) ∧
        (taken = messages.length → ∃ failure, (step call here).value = .error failure)
  /-- Nothing is sent, also not after a failure. -/
  silent : ∀ n, Effect.sentOn n ((transcript (calls.map step) s).flatMap (·.did)) = []
  /-- A reader is opened, and nothing else is done. -/
  opening : ∀ before after, calls = before ++ .openReader :: after →
    let here := final (before.map step) s
    step .openReader here =
      ⟨.ok (.reader here.readers.length), [], { here with readers := here.readers ++ [.ready] }⟩
  /-- A reader that failed is finished: from then on it does nothing, and says so. -/
  finished : ∀ before index after, calls = before ++ .nextEvent index :: after →
    let here := final (before.map step) s
    index < here.readers.length → (∃ failure, (step (.nextEvent index) here).value = .error failure) →
      let later := final (calls.map step) s
      step (.nextEvent index) later = ⟨.error .finished, [], later⟩
  /-- Through a single reader nothing surfaces but messages, also not after a failure. -/
  single : ∀ index, (∀ call ∈ calls, call = .openReader ∨ call = .nextEvent index) →
    surfaced calls s <+: messages
  /-- A read through one reader, or through none, leaves the other readers as they are. -/
  others : ∀ before call after, calls = before ++ call :: after → call.reads = true →
    let here := final (before.map step) s
    ∀ index < here.readers.length, call ≠ .nextEvent index →
      (step call here).state.readers[index]? = here.readers[index]?

/-- **Readers share one stream.** Let a socket deliver the frames of some messages, cut anywhere,
and then end in any way, and let events be read without a reader and through any number of readers,
opened and advanced in any order. As long as no call fails, the messages are handed over in order,
each of them once, to the call that is made at its place, whatever its type; the call behind the
last message fails. Nothing is ever sent, and to open a reader nothing is read. A reader that failed
is finished for good, but the other readers are not; so through a single reader nothing surfaces but
the messages, even if it is advanced again after the failure. -/
theorem readers_share_stream (fed : s.Fed messages) (listens : ∀ call ∈ calls, call.Listens) :
    Shares messages s calls := by
  have hprogress {before after : List Call} (hcalls : calls = before ++ after)
      (succeed : Succeed before s) : Progress messages before s :=
    progress fed (fun c hc => listens c (hcalls ▸ List.mem_append_left _ hc)) succeed
  refine ⟨?inOrder, ?ready, ?turn, ?silent, ?opening, ?finished, ?single, ?others⟩
  case inOrder =>
    intro before after hcalls succeed
    have h := hprogress hcalls succeed
    exact ⟨h.le, h.surfaced_eq⟩
  case ready => exact fun before after hcalls succeed => (hprogress hcalls succeed).readers_eq
  case turn =>
    intro before call after hcalls succeed here taken hreads hopen
    obtain ⟨hsome, hnone⟩ := fed_read (hprogress hcalls succeed).fed hreads hopen
    refine ⟨fun m hm => ?_, fun hlast => hnone ?_⟩
    · refine (hsome m (messages.drop (taken + 1)) ?_).1
      rw [List.drop_eq_getElem?_toList_append, hm]
      rfl
    · rw [List.drop_eq_nil_iff]
      exact Nat.le_of_eq hlast.symm
  case silent =>
    intro n
    have hsilent := invariant_final (I := fun did _ => Effect.sentOn n did = [])
      (fun call hcall {before s} hbefore => by
        rw [Effect.sentOn_append, hbefore, silent_step (listens call hcall) s n]
        rfl)
      (Effect.sentOn_nil n) (s := s)
    exact hsilent
  case opening => exact fun _ _ _ => rfl
  case finished =>
    rintro before index after rfl here hindex ⟨failure, hfails⟩ later
    have hlater : later = final (after.map step) (step (.nextEvent index) here).state :=
      final_append step before (.nextEvent index :: after) s
    have hfinished := finished_final (finished_of_fails hindex hfails) after
    rw [← hlater] at hfinished
    exact step_nextEvent_finished (by rw [hfinished]; decide)
  case single => exact fun index => surfaced_prefix fed
  case others =>
    intro before call after hcalls hreads here index hindex hne
    by_cases hreader : ∃ i, call = .nextEvent i
    · obtain ⟨i, rfl⟩ := hreader
      have hother : i ≠ index := fun heq => hne (congrArg _ heq)
      rw [readers_nextEvent]
      split
      · rfl
      · exact List.getElem?_set_ne hother
    · rw [readers_step fun i hi => hreader ⟨i, hi⟩]
      exact List.getElem?_append_left hindex

/-- Of two readers the second one takes a reply, and the first one meets the end in the middle of the
next frame. -/
theorem second_reader_takes_reply :
    let reply : Message := ⟨2, [91, 93]⟩
    let bytes := reply.frame ++ [68, 87, 77]
    let e : Endpoint := ⟨[.chunk (bytes.take 5), .fault (.numbered 11 []), .chunk (bytes.drop 5),
      .chunk []], [], none, none⟩
    let s := new (Client.new none [e] false)
    let calls : List Call := [.openReader, .openReader, .nextEvent 1, .nextEvent 0, .nextEvent 1]
    s.Fed [reply] ∧ (∀ call ∈ calls, call.Listens) ∧
      (step (.nextEvent 1) (final ((calls.take 2).map step) s)).value = .ok (.message reply) ∧
      ∃ failure, (step (.nextEvent 0) (final ((calls.take 3).map step) s)).value = .error failure := by
  intro reply bytes e s calls
  have hfed : s.Fed [reply] := ⟨fun _ => rfl, by decide, [68, 87, 77], _, by decide, rfl⟩
  have hlistens : ∀ call ∈ calls, call.Listens := by
    intro call hcall
    simp only [calls, List.mem_cons, List.not_mem_nil, or_false] at hcall
    rcases hcall with rfl | rfl | rfl | rfl | rfl <;> trivial
  obtain ⟨-, -, hturn, -⟩ := readers_share_stream hfed hlistens
  have htwo : Succeed (calls.take 2) s := by
    intro run hrun
    rcases List.mem_cons.1 hrun with rfl | hrun
    · exact ⟨_, rfl⟩
    · obtain rfl := List.mem_singleton.1 hrun
      exact ⟨_, rfl⟩
  obtain ⟨hfirst, -⟩ := hturn (calls.take 2) (.nextEvent 1) _ rfl htwo rfl rfl
  have hvalue := hfirst reply rfl
  have hready := readers_nextEvent 1 (final ((calls.take 2).map step) s)
  rw [hvalue] at hready
  have hthree : Succeed (calls.take 3) s := by
    intro run hrun
    rcases List.mem_append.1 (show run ∈ transcript ((calls.take 2).map step) s ++
      [step (.nextEvent 1) (final ((calls.take 2).map step) s)] from hrun) with hmem | hmem
    · exact htwo run hmem
    · obtain rfl := List.mem_singleton.1 hmem
      exact ⟨_, hvalue⟩
  have hopen : (Call.nextEvent 0).IsOpen (final ((calls.take 3).map step) s) :=
    congrArg (·[0]?) hready
  obtain ⟨-, hlast⟩ := hturn (calls.take 3) (.nextEvent 0) _ rfl hthree rfl hopen
  exact ⟨hfed, hlistens, hvalue, hlast rfl⟩

end Session

end DwmIpc
