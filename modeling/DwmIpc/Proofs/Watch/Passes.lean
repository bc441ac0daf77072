import DwmIpc.Proofs.Watch.Table
import DwmIpc.Proofs.Watching

/-!
# What a pass through the table calls

A pass stands at a number. From there it goes to the first number at which a watch
is waiting, in the table as it is then, or ends (`pass_next`, `pass_none`), whatever
the callbacks do.

Callbacks are `Recorded` if they fail in ways that a dispatch records, and `Modest` if
they leave the table alone as well. With modest callbacks a pass calls just what was
waiting when it began (`pass_fires`), and a dispatch does so for each field of the
message (`dispatch_fires`). They are `Detached` if they leave the session alone as well;
then each of them runs as if it were the only one (`dispatch_of_detached`).
-/

namespace DwmIpc

namespace Watcher

open DwmIpc.Action WatchTable

variable {κ : Type} {fire : Fire κ} {w : Watcher κ} {event : Text} {body : Json}
  {fuel index i : Nat} {watch : Watch κ}

/-! ## The steps of a pass -/

/-- Calls the watch of a number, and goes on behind it. -/
def visit (fire : Fire κ) (event : Text) (body : Json) (fuel i : Nat) (watch : Watch κ) :
    Act κ (List Firing) := do
  let firing ← call fire i watch body
  return firing :: (← pass fire event body fuel (i + 1))

theorem pass_over (h : w.table[index]? = none) :
    pass fire event body fuel index w = ⟨.ok [], [], w⟩ := by
  unfold pass
  rw [h]

/-- A watch that was removed is passed over. -/
theorem pass_removed (h : w.table[index]? = some none) :
    pass fire event body (fuel + 1) index w = pass fire event body fuel (index + 1) w := by
  conv => lhs; unfold pass
  simp only [h]

theorem pass_other (h : w.table[index]? = some (some watch)) (hne : watch.event ≠ event) :
    pass fire event body (fuel + 1) index w = pass fire event body fuel (index + 1) w := by
  conv => lhs; unfold pass
  simp only [h, if_neg hne]

/-- A watch for the event is visited. -/
theorem pass_waits (h : w.table[index]? = some (some watch)) (heq : watch.event = event) :
    pass fire event body (fuel + 1) index w = visit fire event body fuel index watch w := by
  conv => lhs; unfold pass
  simp only [h, if_pos heq]
  rfl

/-- A pass goes from its number to the first at which a watch is waiting now, calls it, and goes on
behind it in the watcher that the callback leaves. -/
theorem pass_next {more : List (Nat × Watch κ)}
    (h : waitingFrom w.table event index = (i, watch) :: more) :
    index ≤ i ∧ pass fire event body (fuel + (i + 1 - index)) index w =
      visit fire event body fuel i watch w := by
  generalize hleft : w.table.length - index = left
  induction left generalizing index with
  | zero =>
    have hover : w.table[index]? = none := List.getElem?_eq_none_iff.2 (by omega)
    rw [waitingFrom_over hover] at h
    cases h
  | succ left ih =>
    have hlt : index < w.table.length := by omega
    have skip (hsame : waitingFrom w.table event index = waitingFrom w.table event (index + 1))
        (hstep : ∀ fuel, pass fire event body (fuel + 1) index w =
          pass fire event body fuel (index + 1) w) :
        index ≤ i ∧ pass fire event body (fuel + (i + 1 - index)) index w =
          visit fire event body fuel i watch w := by
      obtain ⟨hle, hrun⟩ := ih (hsame ▸ h) (by omega)
      have hfuel : fuel + (i + 1 - index) = fuel + (i + 1 - (index + 1)) + 1 := by omega
      rw [hfuel, hstep]
      exact ⟨by omega, hrun⟩
    cases hentry : w.table[index]? with
    | none => exact absurd (List.getElem?_eq_none_iff.1 hentry) (by omega)
    | some entry =>
      cases entry with
      | none => exact skip (waitingFrom_removed hentry) fun _ => pass_removed hentry
      | some watch' =>
        by_cases heq : watch'.event = event
        · rw [waitingFrom_waits hentry heq] at h
          obtain ⟨hfirst, -⟩ := List.cons.inj h
          obtain ⟨rfl, rfl⟩ := Prod.mk.inj hfirst
          rw [Nat.add_sub_cancel_left]
          exact ⟨Nat.le_refl _, pass_waits hentry heq⟩
        · exact skip (waitingFrom_other hentry heq) fun _ => pass_other hentry heq

/-- If none is waiting from here on, a pass ends and changes nothing. -/
theorem pass_none (h : waitingFrom w.table event index = [])
    (enough : w.table.length ≤ index + fuel) :
    pass fire event body fuel index w = ⟨.ok [], [], w⟩ := by
  induction fuel generalizing index with
  | zero => exact pass_over (List.getElem?_eq_none_iff.2 enough)
  | succ fuel ih =>
    cases hentry : w.table[index]? with
    | none => exact pass_over hentry
    | some entry =>
      cases entry with
      | none =>
        rw [pass_removed hentry]
        exact ih (waitingFrom_removed hentry ▸ h) (by omega)
      | some watch =>
        by_cases heq : watch.event = event
        · rw [waitingFrom_waits hentry heq] at h
          cases h
        · rw [pass_other hentry heq]
          exact ih (waitingFrom_other hentry heq ▸ h) (by omega)

/-! ## Callbacks that leave the table alone -/

/-- What was done on the session. -/
def effects (did : List (WatchEffect κ)) : List Effect :=
  did.filterMap fun
    | .effect effect => some effect
    | .called .. => none

@[simp] theorem effects_append (a b : List (WatchEffect κ)) :
    effects (a ++ b) = effects a ++ effects b :=
  List.filterMap_append

@[simp] theorem effects_map_effect (done : List Effect) :
    effects (done.map (WatchEffect.effect (κ := κ))) = done := by
  rw [effects, List.filterMap_map]
  exact List.filterMap_some

/-- The callbacks call no other callback, and return a value or fail in a way that is recorded. What
else they do is up to them. -/
structure Recorded (fire : Fire κ) : Prop where
  called : ∀ watch body w, called (fire watch body w).did = []
  contained : ∀ watch body w failure,
    (fire watch body w).value = .error failure → failure.escapes = false

/-- The callbacks leave the table as it is, call no other callback, and return a value or fail in a
way that is recorded. What they do on the session is up to them. -/
structure Modest (fire : Fire κ) : Prop where
  table : ∀ watch body w, (fire watch body w).state.table = w.table
  called : ∀ watch body w, called (fire watch body w).did = []
  contained : ∀ watch body w failure,
    (fire watch body w).value = .error failure → failure.escapes = false

/-- Callbacks that are modest do no more than is recorded. -/
theorem Modest.recorded (hfire : Modest fire) : Recorded fire :=
  ⟨hfire.called, hfire.contained⟩

/-- A callback that is to be called: the number of its watch, the watch, and what it is called
with. -/
structure Due (κ : Type) where
  index : Nat
  watch : Watch κ
  body : Json

namespace Due

/-- What the callback does. -/
def act (fire : Fire κ) (due : Due κ) : Act κ Json :=
  fire due.watch due.body

/-- The record of the call: the number, the name, and the value or the text of the failure. -/
def record (due : Due κ) (run : Run (WatchEffect κ) (Watcher κ) Json) : Firing where
  index := due.index
  event := due.watch.event
  outcome :=
    match run.value with
    | .ok result => .ok result
    | .error failure => .error failure.message

end Due

/-- The run called these callbacks, one after another, each in the watcher that the one before it
left, whether that one failed or not; it recorded each of them, and did nothing else. -/
structure Fires (run : Run (WatchEffect κ) (Watcher κ) (List Firing)) (fire : Fire κ)
    (dues : List (Due κ)) (w : Watcher κ) : Prop where
  value : run.value =
    .ok (List.zipWith Due.record dues (transcript (dues.map (Due.act fire)) w))
  called : Watcher.called run.did = dues.map fun due => (due.watch, due.body)
  calls : Effect.calls (effects run.did) =
    (transcript (dues.map (Due.act fire)) w).flatMap fun run => Effect.calls (effects run.did)
  state : run.state = final (dues.map (Due.act fire)) w

/-- Nothing is called. -/
theorem fires_nil (fire : Fire κ) (w : Watcher κ) : Fires ((pure [] : Act κ (List Firing)) w) fire [] w :=
  ⟨rfl, rfl, rfl, rfl⟩

/-- What is logged calls nothing. -/
theorem fires_log (fire : Fire κ) (level : Level) (message : Text) (w : Watcher κ) :
    Fires ((do log level message; return [] : Act κ (List Firing)) w) fire [] w :=
  ⟨rfl, rfl, rfl, rfl⟩

/-- A call does what the callback does, and ends with its record. -/
theorem call_recorded (hfire : Recorded fire) (due : Due κ) (w : Watcher κ) :
    ∃ did, call fire due.index due.watch due.body w =
        ⟨.ok (due.record (due.act fire w)), did, (due.act fire w).state⟩ ∧
      called did = [(due.watch, due.body)] ∧
      Effect.calls (effects did) = Effect.calls (effects (due.act fire w).did) := by
  have hattempt : (fire due.watch due.body).attempt w =
      ⟨.ok (due.act fire w).value, (due.act fire w).did, (due.act fire w).state⟩ := rfl
  have hquiet := hfire.called due.watch due.body w
  rw [call, tell_bind, bind_ok hattempt, Due.record]
  cases hvalue : (due.act fire w).value with
  | ok result =>
    refine ⟨_, rfl, ?_, ?_⟩
    · show called ([.called due.watch due.body] ++ ((due.act fire w).did ++ [])) = _
      rw [List.append_nil, called_append, Due.act, hquiet]
      rfl
    · show Effect.calls (effects ([.called due.watch due.body] ++ ((due.act fire w).did ++ []))) = _
      rw [List.append_nil, effects_append]
      rfl
  | error failure =>
    -- the failure is recorded, not passed on
    have hcontained := hfire.contained due.watch due.body w failure hvalue
    simp only [hcontained]
    refine ⟨_, rfl, ?_, ?_⟩
    · show called ([.called due.watch due.body] ++ ((due.act fire w).did ++ [.effect _])) = _
      rw [called_append, called_append, Due.act, hquiet]
      rfl
    · show Effect.calls (effects ([.called due.watch due.body] ++
        ((due.act fire w).did ++ [.effect _]))) = _
      rw [effects_append, effects_append, Effect.calls_append, Effect.calls_append]
      exact List.append_nil _

/-- One call in front of others, which start from what it leaves. -/
theorem Fires.cons (hfire : Recorded fire) (due : Due κ) {dues : List (Due κ)}
    {m : Act κ (List Firing)}
    (h : Fires (m (due.act fire w).state) fire dues (due.act fire w).state) :
    Fires ((do
        let firing ← call fire due.index due.watch due.body
        return firing :: (← m) : Act κ (List Firing)) w) fire (due :: dues) w := by
  obtain ⟨did, hcall, hcalled, hcalls⟩ := call_recorded hfire due w
  rw [bind_ok hcall, return_apply]
  refine ⟨?_, ?_, ?_, h.state⟩
  · rw [h.value]
    rfl
  · rw [called_append, hcalled, h.called]
    rfl
  · rw [effects_append, Effect.calls_append, hcalls, h.calls]
    rfl

/-- Some calls in front of others. -/
theorem Fires.append {dues more : List (Due κ)} {m n : Act κ (List Firing)}
    (h : Fires (m w) fire dues w)
    (h' : Fires (n (final (dues.map (Due.act fire)) w)) fire more
      (final (dues.map (Due.act fire)) w)) :
    Fires ((do
        let firings ← m
        return firings ++ (← n) : Act κ (List Firing)) w) fire (dues ++ more) w := by
  cases hrun : m w with
  | mk value did t =>
    rw [hrun] at h
    obtain rfl : value = _ := h.value
    obtain rfl : t = _ := h.state
    rw [bind_ok hrun, return_apply]
    refine ⟨?_, ?_, ?_, ?_⟩
    · rw [h'.value, transcript_append, List.zipWith_append (length_transcript _ _ _).symm]
      rfl
    · rw [called_append, h.called, h'.called, List.map_append]
    · rw [effects_append, Effect.calls_append, h.calls, h'.calls, transcript_append,
        List.flatMap_append]
    · rw [final_append]
      exact h'.state

/-- Such callbacks leave the table as it was when the first of them is called. -/
theorem table_final (hfire : Modest fire) (dues : List (Due κ)) (w : Watcher κ) :
    (final (dues.map (Due.act fire)) w).table = w.table := by
  induction dues generalizing w with
  | nil => rfl
  | cons due rest ih => exact (ih _).trans (hfire.table due.watch due.body w)

/-- A pass calls what is waiting when it begins. -/
theorem pass_fires (hfire : Modest fire) (event : Text) (body : Json)
    (enough : w.table.length ≤ index + fuel) :
    Fires (pass fire event body fuel index w) fire
      ((waitingFrom w.table event index).map fun x => ⟨x.1, x.2, body⟩) w := by
  induction fuel generalizing index w with
  | zero =>
    have hover : w.table[index]? = none := List.getElem?_eq_none_iff.2 enough
    rw [pass_over hover, waitingFrom_over hover]
    exact fires_nil fire w
  | succ fuel ih =>
    have henough : w.table.length ≤ (index + 1) + fuel := by omega
    cases hentry : w.table[index]? with
    | none =>
      rw [pass_over hentry, waitingFrom_over hentry]
      exact fires_nil fire w
    | some entry =>
      cases entry with
      | none =>
        rw [pass_removed hentry, waitingFrom_removed hentry]
        exact ih henough
      | some watch =>
        by_cases heq : watch.event = event
        · rw [pass_waits hentry heq, waitingFrom_waits hentry heq]
          -- behind the call the table is still the same
          have htable := hfire.table watch body w
          have hrest := ih (w := (fire watch body w).state) (htable.symm ▸ henough)
          rw [htable] at hrest
          exact Fires.cons hfire.recorded ⟨index, watch, body⟩ hrest
        · rw [pass_other hentry heq, waitingFrom_other hentry heq]
          exact ih henough

/-! ## Whole messages -/

/-- The fields that a message dispatches: those of its payload, if it is an event and the payload an
object. -/
def eventFields (type : Int) (payload : Bytes) : List (Text × Json) :=
  if type ≠ (MessageType.event.toByte.toNat : Int) then []
  else
    match Json.readBytes payload with
    | .ok (.obj fields) => fields
    | _ => []

/-- The calls for some fields: field by field, the watches that wait for its name. -/
def due (table : WatchTable κ) (fields : List (Text × Json)) : List (Watch κ × Json) :=
  fields.flatMap fun field => (waiting table field.1).map fun x => (x.2, field.2)

/-- The same with the numbers. -/
def dues (table : WatchTable κ) (fields : List (Text × Json)) : List (Due κ) :=
  fields.flatMap fun field => (waiting table field.1).map fun x => ⟨x.1, x.2, field.2⟩

/-- The payload is not nested too deep: it is a JSON value, or refused as none. -/
def Manageable (payload : Bytes) : Prop :=
  ∀ inObject, Json.readBytes payload ≠ .error (.tooDeep inObject)

/-- An event whose payload is nested too deep. -/
def TooDeep (type : Int) (payload : Bytes) (inObject : Bool) : Prop :=
  type = (MessageType.event.toByte.toNat : Int) ∧
    Json.readBytes payload = .error (.tooDeep inObject)

/-- What a dispatch does: it goes through the fields of an object, fails since the payload is nested
too deep, or logs why there is nothing to call. -/
theorem dispatch_cases (allowance : Nat) (fire : Fire κ) (type : Int) (payload : Bytes) :
    (∃ fields, type = (MessageType.event.toByte.toNat : Int) ∧
        Json.readBytes payload = .ok (.obj fields) ∧ eventFields type payload = fields ∧
        dispatch allowance fire type payload = dispatchFields allowance fire fields) ∨
      (∃ inObject, TooDeep type payload inObject ∧
        dispatch allowance fire type payload =
          Action.fail (.unreadableDocument (.tooDeep inObject))) ∨
      eventFields type payload = [] ∧ (∀ inObject, ¬TooDeep type payload inObject) ∧
        ∃ level message, dispatch allowance fire type payload =
          (do log level message; return [] : Act κ (List Firing)) := by
  unfold dispatch eventFields
  by_cases htype : type ≠ (MessageType.event.toByte.toNat : Int)
  · rw [if_pos htype, if_pos htype]
    exact .inr (.inr ⟨rfl, fun inObject h => htype h.1, _, _, rfl⟩)
  · have hevent := Decidable.not_not.1 htype
    have hshallow (h : ∀ inObject, Json.readBytes payload ≠ .error (.tooDeep inObject))
        (inObject : Bool) : ¬TooDeep type payload inObject := fun hdeep => h inObject hdeep.2
    rw [if_neg htype, if_neg htype]
    cases hread : Json.readBytes payload with
    | ok value =>
      have hok := hshallow fun _ h => nomatch hread.symm.trans h
      cases value with
      | obj fields => exact .inl ⟨fields, hevent, rfl, rfl, rfl⟩
      | _ => exact .inr (.inr ⟨rfl, hok, _, _, rfl⟩)
    | error error =>
      cases error with
      | tooDeep inObject => exact .inr (.inl ⟨inObject, ⟨hevent, hread⟩, rfl⟩)
      | _ =>
        have hother := hshallow fun _ h => nomatch hread.symm.trans h
        exact .inr (.inr ⟨rfl, hother, _, _, rfl⟩)

/-- Dispatching the fields fires what is due for each. -/
theorem dispatchFields_fires (hfire : Modest fire) (allowance : Nat) (fields : List (Text × Json))
    (w : Watcher κ) :
    Fires (dispatchFields allowance fire fields w) fire (dues w.table fields) w := by
  induction fields generalizing w with
  | nil => exact fires_nil fire w
  | cons field rest ih =>
    have hpass : Fires (passAll allowance fire field.1 field.2 w) fire
        ((waiting w.table field.1).map fun x => ⟨x.1, x.2, field.2⟩) w :=
      pass_fires hfire field.1 field.2 (by omega)
    refine hpass.append ?_
    have hrest := ih (final
      (((waiting w.table field.1).map fun x => Due.mk x.1 x.2 field.2).map (Due.act fire)) w)
    rwa [table_final hfire] at hrest

/-- A message calls what is waiting for its fields. -/
theorem dispatch_fires (hfire : Modest fire) (allowance : Nat) (type : Int) {payload : Bytes}
    (readable : type = (MessageType.event.toByte.toNat : Int) → Manageable payload)
    (w : Watcher κ) :
    Fires (dispatch allowance fire type payload w) fire
      (dues w.table (eventFields type payload)) w := by
  rcases dispatch_cases allowance fire type payload with
    ⟨fields, -, -, hfields, hrun⟩ | ⟨inObject, hdeep, -⟩ | ⟨hnone, -, level, message, hrun⟩
  · rw [hrun, hfields]
    exact dispatchFields_fires hfire allowance fields w
  · exact absurd hdeep.2 (readable hdeep.1 inObject)
  · rw [hrun, hnone]
    exact fires_log fire level message w

/-! ## Callbacks that keep to themselves -/

/-- The callbacks leave the watcher as it is, call nothing and use no socket, and return a value or
fail in a way that is recorded. -/
structure Detached (fire : Fire κ) : Prop where
  state : ∀ watch body w, (fire watch body w).state = w
  called : ∀ watch body w, called (fire watch body w).did = []
  calls : ∀ watch body w, Effect.calls (effects (fire watch body w).did) = []
  contained : ∀ watch body w failure,
    (fire watch body w).value = .error failure → failure.escapes = false

/-- Callbacks that only return something or fail keep to themselves. -/
theorem Detached.of_values {outcome : Watch κ → Json → Except Failure Json}
    (contained : ∀ watch body failure,
      outcome watch body = .error failure → failure.escapes = false) :
    Detached fun watch body => ofExcept (outcome watch body) where
  state _ _ _ := rfl
  called _ _ _ := rfl
  calls _ _ _ := rfl
  contained watch body _ := contained watch body

/-- So they leave the table alone. -/
theorem Detached.modest (hfire : Detached fire) : Modest fire where
  table watch body w := congrArg Watcher.table (hfire.state watch body w)
  called := hfire.called
  contained := hfire.contained

/-- The record of one call: the number, the name, and the value or the text of the failure. -/
def firing (fire : Fire κ) (body : Json) (w : Watcher κ) (x : Nat × Watch κ) : Firing where
  index := x.1
  event := x.2.event
  outcome :=
    match (fire x.2 body w).value with
    | .ok result => .ok result
    | .error failure => .error failure.message

/-- The records of the calls for some fields. -/
def dueFirings (fire : Fire κ) (w : Watcher κ) (fields : List (Text × Json)) : List Firing :=
  fields.flatMap fun field => (waiting w.table field.1).map (firing fire field.2 w)

/-- The run recorded these firings, called these watches with these values and nothing else, used no
socket, and left the watcher as it was. -/
structure Records {α : Type} (run : Run (WatchEffect κ) (Watcher κ) α) (value : α)
    (calls : List (Watch κ × Json)) (w : Watcher κ) : Prop where
  value : run.value = .ok value
  called : Watcher.called run.did = calls
  calls : Effect.calls (effects run.did) = []
  state : run.state = w

/-- Since they change nothing, each of them runs as if it were the only one. -/
theorem Fires.records (hfire : Detached fire) {dues : List (Due κ)}
    {run : Run (WatchEffect κ) (Watcher κ) (List Firing)} (h : Fires run fire dues w) :
    Records run (dues.map fun due => firing fire due.body w (due.index, due.watch))
      (dues.map fun due => (due.watch, due.body)) w := by
  have hstill : ∀ due ∈ dues, (Due.act fire due w).state = w :=
    fun due _ => hfire.state due.watch due.body w
  obtain ⟨hruns, hfinal⟩ := transcript_of_still hstill
  refine ⟨?_, h.called, ?_, ?_⟩
  · rw [h.value, hruns, List.zipWith_map_right, List.zipWith_self]
    rfl
  · rw [h.calls, hruns, List.flatMap_map]
    exact List.flatMap_eq_nil_iff.2 fun due _ => hfire.calls due.watch due.body w
  · rw [h.state, hfinal]

/-- A pass calls what is waiting when it begins. -/
theorem pass_of_detached (hfire : Detached fire) (event : Text) (body : Json)
    (enough : w.table.length ≤ index + fuel) :
    Records (pass fire event body fuel index w)
      ((waitingFrom w.table event index).map (firing fire body w))
      ((waitingFrom w.table event index).map fun x => (x.2, body)) w := by
  have hrecords := (pass_fires hfire.modest event body enough).records hfire
  rw [List.map_map, List.map_map] at hrecords
  exact hrecords

/-- A message calls what is waiting for its fields. -/
theorem dispatch_of_detached (hfire : Detached fire) (allowance : Nat) (type : Int)
    {payload : Bytes} (readable : Manageable payload) (w : Watcher κ) :
    Records (dispatch allowance fire type payload w) (dueFirings fire w (eventFields type payload))
      (due w.table (eventFields type payload)) w := by
  have hrecords := (dispatch_fires hfire.modest allowance type (fun _ => readable) w).records hfire
  rw [dues, List.map_flatMap, List.map_flatMap] at hrecords
  simp only [List.map_map] at hrecords
  exact hrecords

end Watcher

end DwmIpc
