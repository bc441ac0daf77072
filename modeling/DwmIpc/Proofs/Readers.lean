import DwmIpc.Proofs.Alignment
import DwmIpc.Proofs.Server

/-!
# Sessions that read events

A session over one socket with readers that are opened and advanced on the way.
While there are messages to come, every reader that was opened is ready; with
this, `Session.Steady` is kept by all calls that do not close the connection
(`Session.dealt`), and the messages are dealt out by position:

* a call that takes a message takes the one at its place (`took_at`);
* the messages that reads hand over are those at the places of the reads
  (`surfaced_eq`).
-/

namespace DwmIpc

/-! ## The frame of a message tells the message -/

theorem Message.frame_injective {m m' : Message} (h : m.frame = m'.frame) : m = m' := by
  obtain ⟨hheader, hpayload⟩ := List.append_inj h
    ((Header.length_bytes _).trans (Header.length_bytes _).symm)
  obtain ⟨-, htype⟩ := List.append_inj' hheader rfl
  cases m
  cases m'
  simp_all

namespace Call

/-- How many readers are open after a call. -/
def openedAfter (opened : Nat) : Call → Nat
  | .openReader => opened + 1
  | _ => opened

/-- The call does not close the connection, and advances no reader that was not opened. -/
def UsableAfter (opened : Nat) : Call → Prop
  | .close | .leave => False
  | .nextEvent index => index < opened
  | _ => True

/-- So do all calls of a sequence. -/
def Usable : (opened : Nat) → List Call → Prop
  | _, [] => True
  | opened, call :: rest => call.UsableAfter opened ∧ Usable (call.openedAfter opened) rest

end Call

namespace Session

open DwmIpc.Action Client Connection

/-- What a call handed over, if it was a message. -/
def handed : Except Failure Answer → Option Message
  | .ok (.message m) => some m
  | _ => none

/-- The messages that the reads among some calls hand over. -/
def surfaced : List Call → Session → List Message
  | [], _ => []
  | call :: rest, s =>
    (if call.reads then (handed (step call s).value).toList else []) ++
      surfaced rest (step call s).state

/-- A call takes just the frame of a message off what is unread. -/
def Took (call : Call) (s : Session) (m : Message) : Prop :=
  ∃ rest, s.Unread (m.frame ++ rest) ∧ (step call s).state.Unread rest

/-- A call takes one message at most. -/
theorem Took.unique {call : Call} {s : Session} {m m' : Message} (h : Took call s m)
    (h' : Took call s m') : m = m' := by
  obtain ⟨rest, hunread, hleft⟩ := h
  obtain ⟨rest', hunread', hleft'⟩ := h'
  -- what is left is the same, so the same bytes were taken, and they tell the message
  obtain rfl : rest = rest' := hleft.flow_eq.symm.trans hleft'.flow_eq
  have hframes := hunread.flow_eq.symm.trans hunread'.flow_eq
  exact Message.frame_injective (List.append_cancel_right hframes)

/-! ## The invariant -/

/-- The connection delivers messages; while there are any, all readers are ready. -/
structure Steady (s : Session) (messages : List Message) (opened : Nat) : Prop where
  delivering : s.client.connection.Delivering messages
  ready : messages ≠ [] → s.readers = List.replicate opened .ready

/-- What a call comes to in a steady session. -/
structure Dealt (call : Call) (s : Session) (messages : List Message) (opened : Nat) : Prop where
  steady : Steady (step call s).state (call.leaves messages) (call.openedAfter opened)
  some : call.takesMessage = true → ∀ m rest, messages = m :: rest →
    (step call s).value = .ok (call.answer s.client.ignoreReply m)
  none : call.takesMessage = true → messages = [] → ∃ failure, (step call s).value = .error failure

variable {s : Session} {messages : List Message} {opened : Nat}

/-- A reader that is ready reads an event; it is finished if that fails. -/
theorem step_nextEvent {index : Nat} (hready : s.readers[index]? = some .ready) :
    step (.nextEvent index) s =
      ⟨(readEvent s.client).value.map .message, (readEvent s.client).did,
        ⟨(readEvent s.client).state,
          match (readEvent s.client).value with
          | .ok _ => s.readers
          | .error _ => s.readers.set index .finished⟩⟩ := by
  have hrun : onClient readEvent s
      = ⟨(readEvent s.client).value, (readEvent s.client).did,
          { s with client := (readEvent s.client).state }⟩ := by
    rw [onClient, within, List.map_id]
  have hnext : step (.nextEvent index) s
      = (do return .message (← nextEvent index) : Action Effect Session Answer) s := rfl
  rw [hnext, return_apply, nextEvent, hready, hrun]
  cases (readEvent s.client).value <;> rfl

/-- A reader that is not ready touches nothing. -/
theorem step_nextEvent_finished {index : Nat} (hready : ¬s.readers[index]? = some .ready) :
    step (.nextEvent index) s = ⟨.error .finished, [], s⟩ := by
  have hnext : nextEvent index s = ⟨.error .finished, [], s⟩ := by
    unfold nextEvent
    split
    next hfound => exact absurd hfound hready
    next => rfl
  exact bind_error hnext

theorem dealt_direct (h : Steady s messages opened) {call : Call} (hdirect : call.Direct) :
    Dealt call s messages opened := by
  obtain ⟨run, hstep, hyields⟩ := yields_step h.delivering hdirect
  have hopened : call.openedAfter opened = opened := by
    cases call with
    | openReader => exact hdirect.elim
    | _ => rfl
  have hvalue : (step call s).value = call.outcome s.client.ignoreReply messages := by
    rw [hstep]; exact hyields.value
  have htaking := fun htakes : call.takesMessage = true =>
    (Call.outcome_of_takesMessage htakes s.client.ignoreReply messages).1
  refine ⟨⟨?_, fun hsome => ?_⟩, fun htakes m rest hm => ?_, fun htakes hm => ?_⟩
  · rw [hstep]; exact hyields.left
  · -- messages are left, so there were some before
    rw [hstep, hopened]
    refine h.ready fun hnone => hsome ?_
    unfold Call.leaves
    rw [hnone]
    split <;> rfl
  · rw [hvalue, htaking htakes, hm]; rfl
  · exact ⟨_, by rw [hvalue, htaking htakes, hm]; rfl⟩

theorem dealt_nextEvent (h : Steady s messages opened) {index : Nat} (hindex : index < opened) :
    Dealt (.nextEvent index) s messages opened := by
  have hread := yields_readEvent h.delivering
  cases messages with
  | cons m rest =>
    have hreaders := h.ready (List.cons_ne_nil _ _)
    have hready : s.readers[index]? = some .ready := by
      rw [hreaders, List.getElem?_replicate, if_pos hindex]
    have hstep := step_nextEvent hready
    have hvalue : (readEvent s.client).value = .ok m := hread.value
    rw [hvalue] at hstep
    refine ⟨⟨?_, fun _ => ?_⟩, ?_, fun _ hm => absurd hm (List.cons_ne_nil _ _)⟩
    · rw [hstep]; exact hread.left
    · rw [hstep]; exact hreaders
    · intro _ m' rest' hm
      obtain ⟨rfl, -⟩ := List.cons.inj hm
      rw [hstep]
      rfl
  | nil =>
    -- nothing is left: the reader fails, now or before
    have hnever : ([] : List Message) ≠ [] → ∀ p : Prop, p := fun hne => absurd rfl hne
    by_cases hready : s.readers[index]? = some .ready
    · have hstep := step_nextEvent hready
      have hvalue : (readEvent s.client).value = .error (.closedBeforeData headerSize) :=
        hread.value
      rw [hvalue] at hstep
      refine ⟨⟨?_, fun hsome => hnever hsome _⟩, fun _ m rest hm => ?_, fun _ _ => ?_⟩
      · rw [hstep]; exact hread.left
      · cases hm
      · exact ⟨_, by rw [hstep]; rfl⟩
    · have hstep := step_nextEvent_finished hready
      refine ⟨⟨?_, fun hsome => hnever hsome _⟩, fun _ m rest hm => ?_, fun _ _ => ?_⟩
      · rw [hstep]; exact h.delivering
      · cases hm
      · exact ⟨_, by rw [hstep]⟩

/-- Steady sessions stay steady, and deal out their messages. -/
theorem dealt (h : Steady s messages opened) {call : Call} (husable : call.UsableAfter opened) :
    Dealt call s messages opened := by
  cases call with
  | close | leave => exact husable.elim
  | nextEvent index => exact dealt_nextEvent h husable
  | openReader =>
    refine ⟨⟨h.delivering, fun hsome => ?_⟩, fun htakes => ?_, fun htakes => ?_⟩
    · show s.readers ++ [.ready] = List.replicate (opened + 1) .ready
      rw [h.ready hsome, List.replicate_succ']
    · cases htakes
    · cases htakes
  | _ => exact dealt_direct h trivial

/-! ## Whole sessions -/

/-- In the middle of a usable sequence of calls. -/
theorem steady_final (h : Steady s messages opened) {before rest : List Call}
    (husable : Call.Usable opened (before ++ rest)) :
    ∃ opened', Steady (final (before.map step) s)
        (messages.drop (before.filter Call.takesMessage).length) opened' ∧
      Call.Usable opened' rest := by
  induction before generalizing s messages opened with
  | nil => exact ⟨opened, h, husable⟩
  | cons call more ih =>
    have hdealt := dealt h husable.1
    obtain ⟨opened', hsteady, hrest⟩ := ih hdealt.steady husable.2
    rw [Call.drop_leaves] at hsteady
    exact ⟨opened', hsteady, hrest⟩

/-- A call takes the message at its place, if there is one, and answers with it. -/
theorem took_at (h : Steady s messages opened) {before after : List Call} {call : Call}
    (husable : Call.Usable opened (before ++ call :: after)) (htakes : call.takesMessage = true)
    {m : Message} (hm : messages[(before.filter Call.takesMessage).length]? = some m) :
    Took call (final (before.map step) s) m := by
  obtain ⟨opened', hsteady, hrest⟩ := steady_final h husable
  have hdealt := dealt hsteady hrest.1
  rw [List.drop_eq_getElem?_toList_append, hm] at hsteady hdealt
  refine ⟨_, hsteady.delivering.delivers, ?_⟩
  have hleft := hdealt.steady.delivering.delivers
  rwa [Call.leaves, if_pos htakes] at hleft

/-- A call that reads takes a message. -/
theorem takesMessage_of_reads {call : Call} (h : call.reads = true) : call.takesMessage = true := by
  cases call <;> first | rfl | cases h

/-- What the reads hand over is what stands at their places. -/
theorem surfaced_eq (h : Steady s messages opened) {calls : List Call}
    (husable : Call.Usable opened calls) :
    surfaced calls s =
      (((calls.filter Call.takesMessage).zip messages).filter (·.1.reads)).map (·.2) := by
  induction calls generalizing s messages opened with
  | nil => rfl
  | cons call rest ih =>
    -- a call that takes a message uses up the first pair; any other call uses up none
    have hdealt := dealt h husable.1
    have hrest := ih hdealt.steady husable.2
    rw [surfaced, hrest]
    unfold Call.leaves
    by_cases htakes : call.takesMessage = true
    · rw [if_pos htakes, List.filter_cons_of_pos htakes]
      cases messages with
      | nil =>
        obtain ⟨failure, hvalue⟩ := hdealt.none htakes rfl
        rw [hvalue, List.tail_nil, List.zip_nil_right, List.zip_nil_right]
        split <;> rfl
      | cons m left =>
        rw [hdealt.some htakes m left rfl, List.tail_cons, List.zip_cons_cons]
        cases hreads : call.reads with
        | true =>
          have hanswer : call.answer s.client.ignoreReply m = .message m := by
            cases call <;> first | rfl | cases hreads
          rw [List.filter_cons_of_pos (p := fun x : Call × Message => x.1.reads) hreads, hanswer]
          rfl
        | false =>
          rw [List.filter_cons_of_neg (p := fun x : Call × Message => x.1.reads) (by simp [hreads])]
          rfl
    · have hreads : call.reads = false :=
        Bool.eq_false_iff.2 fun hreads => htakes (takesMessage_of_reads hreads)
      rw [if_neg htakes, List.filter_cons_of_neg htakes, hreads]
      rfl

end Session

end DwmIpc
