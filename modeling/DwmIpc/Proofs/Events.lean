import DwmIpc.Proofs.Readers
import DwmIpc.Proofs.Watching

/-!
# Events between replies

A server that answers in order may push an event between two answers. The client
pairs messages with calls by position, so the call at the place of an event gets
the event, whether it reads or makes a request. `Session.answered_and_surfaced_iff`
draws the line: each request gets its own answer and the reads get every event,
once and in order, just if the calls at the places of events, and no others, are
reads (`InPlace`).

`Session.events_surface_iff_in_place` states it for any usage of a socket, for
clients that first subscribe and then read, and for a running watcher.
-/

namespace DwmIpc

/-- A member of a filtered list stands somewhere in the list. -/
theorem exists_split_of_filter {α : Type} {p : α → Bool} {l : List α} {k : Nat} {a : α}
    (h : (l.filter p)[k]? = some a) :
    ∃ before after, l = before ++ a :: after ∧ (before.filter p).length = k ∧ p a = true := by
  induction l generalizing k with
  | nil => cases h
  | cons b rest ih =>
    by_cases hb : p b = true
    · rw [List.filter_cons_of_pos hb] at h
      cases k with
      | zero =>
        obtain rfl : b = a := Option.some.inj h
        exact ⟨[], rest, rfl, rfl, hb⟩
      | succ k =>
        obtain ⟨before, after, rfl, hk, ha⟩ := ih h
        refine ⟨b :: before, after, rfl, ?_, ha⟩
        rw [List.filter_cons_of_pos hb, List.length_cons, hk]
    · rw [List.filter_cons_of_neg hb] at h
      obtain ⟨before, after, rfl, hk, ha⟩ := ih h
      refine ⟨b :: before, after, rfl, ?_, ha⟩
      rw [List.filter_cons_of_neg hb, hk]

namespace Call

/-- The calls that ask are those that take a message and do not read. -/
theorem filter_asks (calls : List Call) :
    calls.filter asks = (calls.filter takesMessage).filter fun call => !call.reads := by
  rw [List.filter_filter]
  refine List.filter_congr fun call _ => ?_
  rw [asks_eq, Bool.and_comm]

theorem length_filter_asks (calls : List Call) :
    (calls.filter asks).length = (calls.filterMap requestType?).length := by
  rw [List.length_filterMap_eq_countP, List.countP_eq_length_filter]
  rfl

/-- How many calls ask, when those that ask come first. -/
theorem length_filter_not_reads {takers : List Call} {requests reads : Nat}
    (h : takers.map Call.reads = List.replicate requests false ++ List.replicate reads true) :
    (takers.filter fun call => !call.reads).length = requests := by
  have hmap : (takers.filter fun call => !call.reads).length
      = ((takers.map Call.reads).filter fun b => !b).length := by
    rw [List.filter_map, List.length_map]
    rfl
  rw [hmap, h]
  simp

end Call

namespace Session

open DwmIpc.Action Connection

/-- Each call that makes a request takes the answer to it, the first the first, and so on. -/
def AnsweredInOrder (calls : List Call) (answers : List Message) (s : Session) : Prop :=
  ∀ before call after, calls = before ++ call :: after → call.asks = true →
    ∃ m, answers[(before.filter Call.asks).length]? = some m ∧
      Took call (final (before.map step) s) m

variable {s : Session} {output : List Message} {opened : Nat} {calls : List Call}

/-- A call in its place takes what it is meant to take. -/
theorem inPlace_of_answered (h : Steady s output opened) (husable : Call.Usable opened calls)
    (hdrained : output.length ≤ (calls.filter Call.takesMessage).length)
    (hanswered : AnsweredInOrder calls (replies output) s)
    (hsurfaced : surfaced calls s = events output) :
    InPlace (calls.filter Call.takesMessage) output := by
  refine List.prefix_iff_getElem?.2 fun k hk => ?_
  rw [List.length_map] at hk
  -- the output is drained, so there is a call at the place of every message
  obtain ⟨call, hcall⟩ : ∃ call, (calls.filter Call.takesMessage)[k]? = some call :=
    ⟨_, List.getElem?_eq_getElem (Nat.lt_of_lt_of_le hk hdrained)⟩
  obtain ⟨before, after, hcalls, hbefore, htakes⟩ := exists_split_of_filter hcall
  have hm : output[k]? = some output[k] := List.getElem?_eq_getElem hk
  rw [List.getElem?_map, hcall, Option.map_some, List.getElem_map]
  refine congrArg some ?_
  cases hreads : call.reads with
  | true =>
    -- what a read gets is handed over, so it is one of the events
    have hmem : output[k] ∈ events output := by
      rw [← hsurfaced, surfaced_eq h husable]
      refine List.mem_map.2 ⟨(call, output[k]), List.mem_filter.2 ⟨?_, hreads⟩, rfl⟩
      refine List.mem_of_getElem? (i := k) ?_
      exact List.getElem?_zip_eq_some.2 ⟨hcall, hm⟩
    exact (List.mem_filter.1 hmem).2.symm
  | false =>
    -- what a request gets is an answer
    subst hcalls
    have hasks : call.asks = true := by rw [Call.asks_eq, htakes, hreads]; rfl
    obtain ⟨m, hanswer, htook⟩ := hanswered before call after rfl hasks
    have hplace := took_at h husable htakes (by rw [hbefore]; exact hm)
    rw [hplace.unique htook]
    have hreply := (List.mem_filter.1 (List.mem_of_getElem? hanswer)).2
    rw [Bool.not_eq_true'] at hreply
    exact hreply.symm

/-- Calls that are in their places get their answers. -/
theorem answered_of_inPlace (h : Steady s output opened) (husable : Call.Usable opened calls)
    (hreplies : (replies output).length = (calls.filterMap Call.requestType?).length)
    (hplace : InPlace (calls.filter Call.takesMessage) output) :
    AnsweredInOrder calls (replies output) s := by
  intro before call after hcalls hasks
  have htaking : call.takesMessage = true ∧ call.reads = false := by
    rw [Call.asks_eq, Bool.and_eq_true, Bool.not_eq_true'] at hasks
    exact hasks
  obtain ⟨htakes, hreads⟩ := htaking
  rw [← Call.length_filter_asks, Call.filter_asks] at hreplies
  rw [hcalls] at hplace hreplies husable
  rw [List.filter_append, List.filter_cons_of_pos htakes] at hplace hreplies
  obtain ⟨m, hm, hanswer⟩ := hplace.reply_at hreads (Nat.le_of_eq hreplies.symm)
  refine ⟨m, ?_, took_at h husable htakes hm⟩
  rw [Call.filter_asks]
  exact hanswer

/-- **The line between lost and surfaced events**: requests get their answers and reads get the
events just if every message is at the place of a call that is meant for it. -/
theorem answered_and_surfaced_iff (h : Steady s output opened) (husable : Call.Usable opened calls)
    (hreplies : (replies output).length = (calls.filterMap Call.requestType?).length)
    (hdrained : output.length ≤ (calls.filter Call.takesMessage).length) :
    AnsweredInOrder calls (replies output) s ∧ surfaced calls s = events output ↔
      InPlace (calls.filter Call.takesMessage) output := by
  constructor
  · rintro ⟨hanswered, hsurfaced⟩
    exact inPlace_of_answered h husable hdrained hanswered hsurfaced
  · intro hplace
    refine ⟨answered_of_inPlace h husable hreplies hplace, ?_⟩
    rw [surfaced_eq h husable, hplace.reads_eq]

/-- An event that is pushed between the replies to two subscriptions is taken by the second one, and
its reply is surfaced as if it were an event. -/
theorem second_subscription_takes_event :
    let output : List Message := [⟨5, []⟩, ⟨6, [123, 125]⟩, ⟨5, []⟩]
    let calls : List Call :=
      [.subscribe [.scalar 'a'], .subscribe [.scalar 'b'], .readEvent]
    let start := new (Client.new none
      [⟨[.chunk (output.flatMap Message.frame)], [], none, none⟩] false)
    Call.Usable 0 calls ∧ Serves false (calls.filterMap Call.requestType?) output ∧
      output.length ≤ (calls.filter Call.takesMessage).length ∧
      Took (.subscribe [.scalar 'b']) (final ([.subscribe [.scalar 'a']].map step) start)
        ⟨6, [123, 125]⟩ ∧
      surfaced calls start = [⟨5, []⟩] ∧
      ¬(AnsweredInOrder calls (replies output) start ∧ surfaced calls start = events output) := by
  intro output calls start
  have hdelivers : Incoming.Delivers [.chunk (output.flatMap Message.frame)]
      (output.flatMap Message.frame ++ []) := .chunk (by decide) .done
  rw [List.append_nil] at hdelivers
  have hsteady : Steady start output 0 :=
    ⟨delivering_new (by decide) hdelivers rfl .nil _ _, fun _ => rfl⟩
  have husable : Call.Usable 0 calls := ⟨trivial, trivial, trivial, trivial⟩
  have hserves : Serves false (calls.filterMap Call.requestType?) output := by
    rw [show calls.filterMap Call.requestType? = [.subscribe, .subscribe] by decide]
    exact .reply rfl (.push rfl (.reply rfl .done))
  have hsurfaced : surfaced calls start = [⟨5, []⟩] := by
    rw [surfaced_eq hsteady husable]
    decide
  refine ⟨husable, hserves, by decide, ?_, hsurfaced, ?_⟩
  · have hsplit : Call.Usable 0 ([.subscribe [.scalar 'a']] ++ .subscribe [.scalar 'b'] ::
        [.readEvent]) := husable
    exact took_at hsteady hsplit (by decide) (by decide)
  · rintro ⟨-, hevents⟩
    rw [hsurfaced] at hevents
    exact absurd hevents (by decide)

/-- **Events surface just if they are in place.** A server answers each request in order and may
push events once something was subscribed to; its output is cut anywhere. In any sequence of
requests and reads that drains the output, each call takes the message at its place, whatever it is.
So each request gets its own answer, and the reads surface every event once and in order and nothing
else, if and only if the calls at the places of events, and no others, are reads. For calls that
first make requests and then read, and for a running watcher, this means that no event comes before
the last answer; the watcher then dispatches just the events. -/
theorem events_surface_iff_in_place {output : List Message} (fits : ∀ m ∈ output, m.Fits)
    {e : Endpoint} (delivers : Incoming.Delivers e.incoming (output.flatMap Message.frame))
    (connects : e.connectFault = none) (patient : Outgoing.Tolerant e.outgoing)
    (path : Option Text) (ignoreReply : Bool) :
    let start := new (Client.new path [e] ignoreReply)
    (∀ calls, Call.Usable 0 calls → Serves false (calls.filterMap Call.requestType?) output →
      output.length ≤ (calls.filter Call.takesMessage).length →
      (∀ before call after m, calls = before ++ call :: after → call.takesMessage = true →
        output[(before.filter Call.takesMessage).length]? = some m →
        Took call (final (before.map step) start) m) ∧
      (AnsweredInOrder calls (replies output) start ∧ surfaced calls start = events output ↔
        InPlace (calls.filter Call.takesMessage) output) ∧
      ∀ requests reads, (calls.filter Call.takesMessage).map Call.reads =
          List.replicate requests false ++ List.replicate reads true →
        (InPlace (calls.filter Call.takesMessage) output ↔
          ∀ m ∈ output.take requests, m.isEvent = false)) ∧
    ∀ {κ : Type} (table : WatchTable κ) (fire : Watcher.Fire κ) (allowance rounds : Nat),
      (∀ watch body, Watcher.Offline (fire watch body)) →
      (∀ name ∈ WatchTable.names table, (Call.subscribe name).refused = false) →
      Serves false (List.replicate (WatchTable.names table).length .subscribe) output →
      output.length < rounds →
      let watcher : Watcher κ := ⟨start, table⟩
      let behind := output.drop (WatchTable.names table).length
      Watcher.called (Watcher.run allowance fire rounds watcher).did =
          Watcher.called (Watcher.dispatchEach allowance fire behind watcher).did ∧
        (Watcher.run allowance fire rounds watcher).value =
          Watcher.loopEnd (Watcher.dispatchEach allowance fire behind watcher).value ∧
        (behind = events output ↔
          ∀ m ∈ output.take (WatchTable.names table).length, m.isEvent = false) := by
  intro start
  have hdelivering := delivering_new fits delivers connects patient path ignoreReply
  have hsteady : Steady start output 0 := ⟨hdelivering, fun _ => rfl⟩
  refine ⟨fun calls husable hserves hdrained => ⟨?_, ?_, ?_⟩, ?_⟩
  · intro before call after m hcalls htakes hm
    subst hcalls
    exact took_at hsteady husable htakes hm
  · exact answered_and_surfaced_iff hsteady husable
      (hserves.length_replies (Call.event_notMem_requests calls)) hdrained
  · intro requests reads hcalls
    refine inPlace_iff_of_subscribing hcalls ?_ hdrained
    rw [hserves.length_replies (Call.event_notMem_requests calls), ← Call.length_filter_asks,
      Call.filter_asks]
    exact Call.length_filter_not_reads hcalls
  · intro κ table fire allowance rounds hfire hnames hserves hrounds watcher behind
    have hreplies : (replies output).length = (WatchTable.names table).length := by
      have hsubscribe : MessageType.event ∉
          List.replicate (WatchTable.names table).length MessageType.subscribe := by
        intro hmem
        cases List.eq_of_mem_replicate hmem
      rw [hserves.length_replies hsubscribe, List.length_replicate]
    have henough : (WatchTable.names table).length ≤ output.length :=
      hreplies ▸ List.length_filter_le ..
    obtain ⟨hcalled, hvalue⟩ := Watcher.run_dispatches (w := watcher) hdelivering hfire allowance
      hnames henough hrounds
    exact ⟨hcalled, hvalue, drop_eq_events_iff hreplies⟩

/-- An event after the replies to two subscriptions: a reader gets it, a watcher dispatches it. -/
theorem event_after_two_subscriptions :
    let output : List Message := [⟨5, []⟩, ⟨5, []⟩, ⟨6, [123, 125]⟩]
    let bytes := output.flatMap Message.frame
    let e : Endpoint := ⟨[.chunk (bytes.take 7), .fault (.numbered 4 []), .chunk (bytes.drop 7)],
      [.room 1, .fault (.numbered 11 [])], none, none⟩
    let start := new (Client.new none [e] false)
    let calls : List Call := [.subscribe [.scalar 'a'], .setIgnoreReply true,
      .subscribe [.scalar 'b'], .openReader, .nextEvent 0]
    let table : WatchTable Unit := [some ⟨[.scalar 'a'], ()⟩, none, some ⟨[.scalar 'b'], ()⟩]
    let fire : Watcher.Fire Unit := fun _ body => pure body
    Incoming.Delivers e.incoming bytes ∧
      (AnsweredInOrder calls [⟨5, []⟩, ⟨5, []⟩] start ∧ surfaced calls start = [⟨6, [123, 125]⟩]) ∧
      Watcher.called (Watcher.run 1 fire 4 ⟨start, table⟩).did =
        Watcher.called (Watcher.dispatchEach 1 fire [⟨6, [123, 125]⟩] ⟨start, table⟩).did := by
  intro output bytes e start calls table fire
  have hdelivers : Incoming.Delivers e.incoming bytes := .in_two (by decide) (by decide) rfl
  have hpatient : Outgoing.Tolerant e.outgoing := .room 1 (.retry rfl .nil)
  obtain ⟨hcalls, hwatch⟩ :=
    events_surface_iff_in_place (by decide) hdelivers rfl hpatient none false
  have husable : Call.Usable 0 calls :=
    ⟨trivial, trivial, trivial, trivial, Nat.zero_lt_one, trivial⟩
  have hserves : Serves false [.subscribe, .subscribe] output :=
    .reply rfl (.reply rfl (.push rfl .done))
  have hasked : calls.filterMap Call.requestType? = [.subscribe, .subscribe] := by decide
  obtain ⟨-, hiff, hplace⟩ := hcalls calls husable (hasked ▸ hserves) (by decide)
  have hinPlace := (hplace 2 1 (by decide)).2 (by decide)
  obtain ⟨hanswered, hsurfaced⟩ := hiff.2 hinPlace
  obtain ⟨hcalled, -, -⟩ := hwatch table fire 1 4 (fun _ _ => Watcher.offline_pure _) (by decide)
    hserves (by decide)
  exact ⟨hdelivers, ⟨hanswered, hsurfaced⟩, hcalled⟩

end Session

end DwmIpc
