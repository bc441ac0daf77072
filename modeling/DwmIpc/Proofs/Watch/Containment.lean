import DwmIpc.Proofs.Json.Nesting
import DwmIpc.Proofs.Watch.Passes

/-!
# What can break a watcher

A dispatch keeps the failures of callbacks to itself, whatever the callbacks do with
the watcher and its session (`Contained`). It then ends with its firings, unless it
is given up because the callbacks registered too many watches (`Settles`); and a
payload that cannot be read calls nothing. There is one exception: a document that
is nested too deep is not handled, and ends the dispatch, the round and the run.

A round fails for these reasons or because no message can be read (`Stops`), and a
run ends with the first round that fails (`dispatchAll_stops`). The main result is
`payloads_break_by_depth_only`.
-/

namespace DwmIpc

namespace Watcher

open DwmIpc.Action WatchTable

variable {κ : Type} {fire : Fire κ} {w : Watcher κ} {allowance bound : Nat}

/-- The callbacks return something or fail in a way that is recorded. What they do with the watcher
and its session is up to them, but the table never gets shorter: to remove a watch does not free its
number. -/
structure Contained (fire : Fire κ) : Prop where
  recorded : ∀ watch body w failure,
    (fire watch body w).value = .error failure → failure.escapes = false
  numbers : ∀ watch body w, w.table.length ≤ (fire watch body w).state.table.length

/-- The run gives a value, unless it was given up since the table had grown beyond the bound. -/
structure Settles {α : Type} (bound : Nat) (w : Watcher κ)
    (run : Run (WatchEffect κ) (Watcher κ) α) : Prop where
  numbers : w.table.length ≤ run.state.table.length
  outcome : (∃ a, run.value = .ok a) ∨
    run.value = .error .unfinished ∧ bound < run.state.table.length

namespace Settles

theorem pure {α : Type} (a : α) (w : Watcher κ) :
    Settles bound w ((Pure.pure a : Act κ α) w) :=
  ⟨Nat.le_refl _, .inl ⟨a, rfl⟩⟩

theorem mono {α : Type} {run : Run (WatchEffect κ) (Watcher κ) α} {less : Nat} (hle : less ≤ bound)
    (h : Settles bound w run) : Settles less w run :=
  ⟨h.numbers, h.outcome.imp id fun ⟨hvalue, hgrown⟩ => ⟨hvalue, Nat.lt_of_le_of_lt hle hgrown⟩⟩

/-- What follows starts in a table that is no shorter. -/
theorem bind {α β : Type} {m : Act κ α} {f : α → Act κ β} (h : Settles bound w (m w))
    (hf : ∀ a t, w.table.length ≤ t.table.length → Settles bound t (f a t)) :
    Settles bound w ((m >>= f) w) := by
  cases hrun : m w with
  | mk value did t =>
    rw [hrun] at h
    have hlonger : w.table.length ≤ t.table.length := h.numbers
    rcases h.outcome with ⟨a, hvalue⟩ | ⟨hvalue, hgrown⟩
    · obtain rfl : value = .ok a := hvalue
      rw [bind_ok hrun]
      have hrest := hf a t hlonger
      exact ⟨Nat.le_trans hlonger hrest.numbers, hrest.outcome⟩
    · obtain rfl : value = .error .unfinished := hvalue
      rw [bind_error hrun]
      exact ⟨hlonger, .inr ⟨rfl, hgrown⟩⟩

end Settles

/-! ## Dispatching -/

/-- A failure of a callback becomes a record. -/
theorem settles_call (hfire : Contained fire) (index : Nat) (watch : Watch κ) (body : Json)
    (w : Watcher κ) : Settles bound w (call fire index watch body w) := by
  have hattempt : (fire watch body).attempt w =
      ⟨.ok (fire watch body w).value, (fire watch body w).did, (fire watch body w).state⟩ := rfl
  rw [call, tell_bind, bind_ok hattempt]
  cases hvalue : (fire watch body w).value with
  | ok result => exact ⟨hfire.numbers watch body w, .inl ⟨_, rfl⟩⟩
  | error failure =>
    simp only [hfire.recorded watch body w failure hvalue]
    exact ⟨hfire.numbers watch body w, .inl ⟨_, rfl⟩⟩

/-- A pass ends, unless the table has grown beyond the numbers that it may visit. -/
theorem settles_pass (hfire : Contained fire) (event : Text) (body : Json) {fuel index : Nat}
    (w : Watcher κ) :
    Settles (index + fuel) w (pass fire event body fuel index w) := by
  induction fuel generalizing index w with
  | zero =>
    unfold pass
    cases hentry : w.table[index]? with
    | none => exact .pure [] w
    | some entry => exact ⟨Nat.le_refl _, .inr ⟨rfl, (List.getElem?_eq_some_iff.1 hentry).1⟩⟩
  | succ fuel ih =>
    have hsame : index + (fuel + 1) = index + 1 + fuel := by omega
    have hrest (w : Watcher κ) :
        Settles (index + (fuel + 1)) w (pass fire event body fuel (index + 1) w) := by
      rw [hsame]
      exact ih w
    cases hentry : w.table[index]? with
    | none =>
      rw [pass_over hentry]
      exact .pure [] w
    | some entry =>
      cases entry with
      | none =>
        rw [pass_removed hentry]
        exact hrest w
      | some watch =>
        by_cases heq : watch.event = event
        · -- the callback may register and remove watches, and the pass goes on in that table
          rw [pass_waits hentry heq]
          exact (settles_call hfire index watch body w).bind fun firing t _ =>
            (hrest t).bind fun firings t' _ => .pure _ t'
        · rw [pass_other hentry heq]
          exact hrest w

theorem settles_dispatchFields (hfire : Contained fire) (allowance : Nat)
    (fields : List (Text × Json)) (w : Watcher κ) :
    Settles (w.table.length + allowance) w (dispatchFields allowance fire fields w) := by
  induction fields generalizing w with
  | nil => exact .pure [] w
  | cons field rest ih =>
    have hpass : Settles (0 + (w.table.length + allowance)) w
        (passAll allowance fire field.1 field.2 w) := settles_pass hfire field.1 field.2 w
    rw [Nat.zero_add] at hpass
    refine hpass.bind fun firings t hlonger => ?_
    have hrest := (ih t).mono (Nat.add_le_add_right hlonger allowance)
    exact hrest.bind fun more t' _ => .pure _ t'

variable {type : Int} {payload : Bytes}

/-- An event that is nested too deep ends its dispatch before a callback is called. -/
theorem dispatch_tooDeep {inObject : Bool} (h : TooDeep type payload inObject) (allowance : Nat)
    (fire : Fire κ) (w : Watcher κ) :
    dispatch allowance fire type payload w =
      ⟨.error (.unreadableDocument (.tooDeep inObject)), [], w⟩ := by
  rw [dispatch, if_neg (not_not_intro h.1), h.2]
  rfl

/-- Any other message is dispatched to its end. -/
theorem settles_dispatch (hfire : Contained fire) (allowance : Nat)
    (h : ∀ inObject, ¬TooDeep type payload inObject) (w : Watcher κ) :
    Settles (w.table.length + allowance) w (dispatch allowance fire type payload w) := by
  rcases dispatch_cases allowance fire type payload with
    ⟨fields, -, -, -, hrun⟩ | ⟨inObject, hdeep, -⟩ | ⟨-, -, level, message, hrun⟩
  · rw [hrun]
    exact settles_dispatchFields hfire allowance fields w
  · exact absurd hdeep (h inObject)
  · rw [hrun]
    exact ⟨Nat.le_refl _, .inl ⟨[], rfl⟩⟩

/-- Without an object there is nothing to call. -/
theorem dispatch_ignored (h : ∀ inObject, ¬TooDeep type payload inObject)
    (hnone : type ≠ (MessageType.event.toByte.toNat : Int) ∨
      ∀ fields, Json.readBytes payload ≠ .ok (.obj fields))
    (allowance : Nat) (fire : Fire κ) (w : Watcher κ) :
    (dispatch allowance fire type payload w).value = .ok [] ∧
      called (dispatch allowance fire type payload w).did = [] ∧
      (dispatch allowance fire type payload w).state = w := by
  rcases dispatch_cases allowance fire type payload with
    ⟨fields, hevent, hread, -⟩ | ⟨inObject, hdeep, -⟩ | ⟨-, -, level, message, hrun⟩
  · exact absurd hread (hnone.resolve_left (not_not_intro hevent) fields)
  · exact absurd hdeep (h inObject)
  · rw [hrun]
    exact ⟨rfl, rfl, rfl⟩

/-! ## Rounds -/

/-- Why a round fails: no message can be read, the event is nested too deep, or the callbacks
registered more watches than is allowed for. -/
inductive Stops (allowance : Nat) (fire : Fire κ) (w : Watcher κ) : Failure → Prop
  | reading {failure : Failure} :
      (Client.readEvent w.session.client).value = .error failure →
      Stops allowance fire w failure
  | nested {m : Message} {inObject : Bool} :
      (Client.readEvent w.session.client).value = .ok m →
      TooDeep m.type.toNat m.payload inObject →
      Stops allowance fire w (.unreadableDocument (.tooDeep inObject))
  | growing : w.table.length + allowance < (pollOnce allowance fire w).state.table.length →
      Stops allowance fire w .unfinished

/-- A round gives its firings, or fails for one of these reasons. -/
theorem pollOnce_stops (hfire : Contained fire) (allowance : Nat) (w : Watcher κ) :
    (∃ firings, (pollOnce allowance fire w).value = .ok firings) ∨
      ∃ failure, (pollOnce allowance fire w).value = .error failure ∧
        Stops allowance fire w failure := by
  have hread := onClient_apply Client.readEvent w
  cases hvalue : (Client.readEvent w.session.client).value with
  | error failure =>
    rw [hvalue] at hread
    have hpoll : pollOnce allowance fire w = _ := bind_error hread
    exact .inr ⟨failure, congrArg Run.value hpoll, .reading hvalue⟩
  | ok m =>
    rw [hvalue] at hread
    have hpoll : pollOnce allowance fire w = _ := bind_ok hread
    by_cases hdeep : ∃ inObject, TooDeep m.type.toNat m.payload inObject
    · obtain ⟨inObject, hdeep⟩ := hdeep
      rw [dispatch_tooDeep hdeep] at hpoll
      exact .inr ⟨_, congrArg Run.value hpoll, .nested hvalue hdeep⟩
    · have hsettles := settles_dispatch hfire allowance (fun inObject h => hdeep ⟨inObject, h⟩)
        { w with session :=
            { w.session with client := (Client.readEvent w.session.client).state } }
      rcases hsettles.outcome with ⟨firings, hfirings⟩ | ⟨hunfinished, hgrown⟩
      · exact .inl ⟨firings, (congrArg Run.value hpoll).trans hfirings⟩
      · refine .inr ⟨_, (congrArg Run.value hpoll).trans hunfinished, .growing ?_⟩
        rw [hpoll]
        exact hgrown

/-- The watcher after so many rounds. -/
def afterRounds (allowance : Nat) (fire : Fire κ) : (rounds : Nat) → Watcher κ → Watcher κ
  | 0, w => w
  | rounds + 1, w => afterRounds allowance fire rounds (pollOnce allowance fire w).state

/-- The first so many rounds all give their firings. -/
def Rounds (allowance : Nat) (fire : Fire κ) (made : Nat) (w : Watcher κ) : Prop :=
  ∀ i < made, ∃ firings,
    (pollOnce allowance fire (afterRounds allowance fire i w)).value = .ok firings

/-- A loop ends with the first round that fails, or when its rounds are used up. -/
theorem dispatchAll_stops (hfire : Contained fire) (allowance rounds : Nat) (w : Watcher κ) :
    ∃ made, Rounds allowance fire made w ∧
      (made = rounds ∧ (dispatchAll allowance fire rounds w).value = .error .unfinished ∨
        made < rounds ∧ ∃ failure, (dispatchAll allowance fire rounds w).value = .error failure ∧
          Stops allowance fire (afterRounds allowance fire made w) failure) := by
  induction rounds generalizing w with
  | zero => exact ⟨0, fun i hi => absurd hi (Nat.not_lt_zero i), .inl ⟨rfl, rfl⟩⟩
  | succ rounds ih =>
    cases hrun : pollOnce allowance fire w with
    | mk value did t =>
      have hvalue : (pollOnce allowance fire w).value = value := congrArg Run.value hrun
      have hstate : (pollOnce allowance fire w).state = t := congrArg Run.state hrun
      cases value with
      | ok firings =>
        have hloop : dispatchAll allowance fire (rounds + 1) w = _ := bind_ok hrun
        obtain ⟨made, hmade, hend⟩ := ih t
        refine ⟨made + 1, fun i hi => ?_, ?_⟩
        · cases i with
          | zero => exact ⟨firings, hvalue⟩
          | succ i =>
            rw [afterRounds, hstate]
            exact hmade i (Nat.lt_of_succ_lt_succ hi)
        · rw [hloop, afterRounds, hstate]
          exact hend.imp (fun h => ⟨congrArg (· + 1) h.1, h.2⟩)
            fun h => ⟨Nat.succ_lt_succ h.1, h.2⟩
      | error failure =>
        have hloop : dispatchAll allowance fire (rounds + 1) w = _ := bind_error hrun
        refine ⟨0, fun i hi => absurd hi (Nat.not_lt_zero i),
          .inr ⟨Nat.succ_pos _, failure, congrArg Run.value hloop, ?_⟩⟩
        rcases pollOnce_stops hfire allowance w with ⟨firings, hok⟩ | ⟨failure', hfails, hstops⟩
        · exact nomatch hvalue.symm.trans hok
        · obtain rfl := Except.error.inj (hvalue.symm.trans hfails)
          exact hstops

/-- **Only depth breaks a watcher.** Let callbacks register and remove watches and use the session as
they like, but fail only in ways that are recorded. A message is dispatched to its end, whatever its
payload, unless the callbacks register more watches than is allowed for; a payload that is no JSON
object calls nothing and changes nothing.
The exception is an event that is nested too deep: its dispatch fails, before a callback is called.
Such an event has more than 990 brackets open at a time, those between quotes left out.
A round fails only for this reason, or because no message can be read, or because of such callbacks,
and a run that has subscribed goes on until a round fails. -/
theorem payloads_break_by_depth_only (hfire : Contained fire) (allowance : Nat) (w : Watcher κ) :
    (∀ type payload,
      let run := dispatch allowance fire type payload w
      ((∀ inObject, ¬TooDeep type payload inObject) →
        Settles (w.table.length + allowance) w run ∧
        (type ≠ (MessageType.event.toByte.toNat : Int) ∨
            (∀ fields, Json.readBytes payload ≠ .ok (.obj fields)) →
          run.value = .ok [] ∧ called run.did = [] ∧ run.state = w)) ∧
      ∀ inObject, TooDeep type payload inObject →
        run = ⟨.error (.unreadableDocument (.tooDeep inObject)), [], w⟩ ∧
        ∃ t, Json.decode? payload = some t ∧ 990 < Json.deepest false 0 t) ∧
    ((∃ firings, (pollOnce allowance fire w).value = .ok firings) ∨
      ∃ failure, (pollOnce allowance fire w).value = .error failure ∧
        Stops allowance fire w failure) ∧
    ∀ rounds,
      let opening := subscribeAll w
      let whole := run allowance fire rounds w
      (∀ failure, opening.value = .error failure → whole.value = .error failure) ∧
      (opening.value = .ok () → ∃ made, Rounds allowance fire made opening.state ∧
        (made = rounds ∧ whole.value = .error .unfinished ∨
          made < rounds ∧ ∃ failure, whole.value = .error failure ∧
            Stops allowance fire (afterRounds allowance fire made opening.state) failure)) := by
  refine ⟨fun type payload => ⟨fun hshallow => ⟨?_, fun hnone => ?_⟩, fun inObject hdeep => ?_⟩,
    pollOnce_stops hfire allowance w, fun rounds => ⟨fun failure hfails => ?_, fun hopened => ?_⟩⟩
  · exact settles_dispatch hfire allowance hshallow w
  · exact dispatch_ignored hshallow hnone allowance fire w
  · exact ⟨dispatch_tooDeep hdeep allowance fire w, Json.deepest_of_readBytes hdeep.2⟩
  · cases hrun : subscribeAll w with
    | mk value did t =>
      rw [hrun] at hfails
      obtain rfl : value = .error failure := hfails
      have hwhole : run allowance fire rounds w = _ := bind_error hrun
      rw [hwhole]
  · cases hrun : subscribeAll w with
    | mk value did t =>
      rw [hrun] at hopened
      obtain rfl : value = .ok () := hopened
      have hwhole : run allowance fire rounds w = _ := bind_ok hrun
      rw [hwhole]
      exact dispatchAll_stops hfire allowance rounds t

/-- A dispatch goes on when a callback removes a watch and fails, and one bracket is no JSON and calls
nothing; but twenty thousand brackets end the dispatch. -/
theorem brackets_break_dispatch :
    let object : Bytes := [123, 34, 97, 34, 58, 49, 125]
    let a : Text := [.scalar 'a']
    let fire : Fire Nat := fun watch body => do
      unwatch 0
      Action.ofExcept (if watch.callback = 0 then .error (.complaint a) else .ok body)
    let w : Watcher Nat := ⟨.new (.new none [] false), [some ⟨a, 0⟩, some ⟨a, 1⟩]⟩
    Contained fire ∧ Settles 2 w (dispatch 0 fire 6 object w) ∧
      (dispatch 0 fire 6 [0x5B] w).value = .ok [] ∧
      dispatch 0 fire 6 (List.replicate 20000 0x5B) w =
        ⟨.error (.unreadableDocument (.tooDeep false)), [], w⟩ := by
  intro object a fire w
  have hfire : Contained fire := by
    refine ⟨fun watch body w failure h => ?_, fun _ _ w => Nat.le_of_eq (length_remove w.table 0).symm⟩
    have hvalue : (if watch.callback = 0 then .error (.complaint a) else .ok body :
        Except Failure Json) = .error failure := h
    split at hvalue
    next =>
      obtain rfl := Except.error.inj hvalue
      rfl
    next => cases hvalue
  have hobject : Json.readBytes object = .ok (.obj [(a, .int 1)]) := rfl
  have hbracket : Json.readBytes [0x5B] = .error .malformed := rfl
  have hdeep : Json.readBytes (List.replicate 20000 0x5B) = .error (.tooDeep false) :=
    Json.readBytes_brackets (by decide)
  obtain ⟨hdispatch, -⟩ := payloads_break_by_depth_only hfire 0 w
  refine ⟨hfire, ((hdispatch 6 object).1 fun inObject h => ?_).1,
    (((hdispatch 6 [0x5B]).1 fun inObject h => ?_).2 (.inr fun fields h => ?_)).1,
    ((hdispatch 6 _).2 false ⟨rfl, hdeep⟩).1⟩
  · exact nomatch hobject.symm.trans h.2
  · exact nomatch hbracket.symm.trans h.2
  · exact nomatch hbracket.symm.trans h

end Watcher

end DwmIpc
