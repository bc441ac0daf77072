import DwmIpc.Proofs.Watch.Running

/-!
# The table of watches refines its history

The table changes by registering and removing watches only. `After` says that a
watcher has come out of a history of such changes, with anything in between that
leaves the table alone. Seen from the history, the watch with a number is `Live` if it
was registered as that one and not removed afterwards; the table holds just the live
watches (`After.liveAt_iff`), as each change does to both the same
(`liveAt_add`, `liveAt_remove` and `live_append_watch`, `live_append_unwatch`).

The main result, `table_refines_history`, reads the numbers, the dispatches, the
names and the subscriptions off the history.
-/

namespace DwmIpc

/-- A change of the table of watches. -/
inductive Change (κ : Type) where
  | watch (watch : Watch κ)
  | unwatch (index : Int)

namespace Change

variable {κ : Type} {h : List (Change κ)} {i : Nat} {watch entered : Watch κ} {index : Int}

/-- How many watches were registered. -/
def registered (h : List (Change κ)) : Nat :=
  h.countP fun
    | .watch _ => true
    | .unwatch _ => false

/-- The watch was registered with this number, and the number was not removed after that. -/
def Live (h : List (Change κ)) (i : Nat) (watch : Watch κ) : Prop :=
  ∃ before after, h = before ++ .watch watch :: after ∧ registered before = i ∧
    Change.unwatch i ∉ after

/-- The last change of a history is in front of it, or behind what it is about. -/
theorem append_eq_split {before after : List (Change κ)} {last here : Change κ} :
    h ++ [last] = before ++ here :: after ↔
      (h = before ∧ last = here ∧ after = []) ∨
        ∃ rest, after = rest ++ [last] ∧ h = before ++ here :: rest := by
  constructor
  · intro heq
    rcases List.eq_nil_or_concat after with rfl | ⟨rest, last', rfl⟩
    · obtain ⟨hfront, hlast⟩ := List.append_inj' heq rfl
      exact .inl ⟨hfront, List.singleton_inj.1 hlast, rfl⟩
    · rw [List.concat_eq_append, ← List.cons_append, ← List.append_assoc] at heq
      obtain ⟨hfront, hlast⟩ := List.append_inj' heq rfl
      obtain rfl := List.singleton_inj.1 hlast
      exact .inr ⟨rest, List.concat_eq_append, hfront⟩
  · rintro (⟨rfl, rfl, rfl⟩ | ⟨rest, rfl, rfl⟩)
    · rfl
    · rw [List.append_assoc, List.cons_append]

/-- A watch that is registered is live with the next number, and leaves the others as they are. -/
theorem live_append_watch :
    Live (h ++ [.watch entered]) i watch ↔
      Live h i watch ∨ (i = registered h ∧ watch = entered) := by
  constructor
  · rintro ⟨before, after, hsplit, hnumber, hkept⟩
    rcases append_eq_split.1 hsplit with ⟨rfl, hlast, rfl⟩ | ⟨rest, rfl, rfl⟩
    · exact .inr ⟨hnumber.symm, (Change.watch.inj hlast).symm⟩
    · exact .inl ⟨before, rest, rfl, hnumber, fun hmem => hkept (List.mem_append_left _ hmem)⟩
  · rintro (⟨before, after, rfl, hnumber, hkept⟩ | ⟨rfl, rfl⟩)
    · refine ⟨before, after ++ [.watch entered], append_eq_split.2 (.inr ⟨after, rfl, rfl⟩),
        hnumber, fun hmem => ?_⟩
      rcases List.mem_append.1 hmem with hmem | hmem
      · exact hkept hmem
      · cases List.mem_singleton.1 hmem
    · exact ⟨h, [], rfl, rfl, List.not_mem_nil⟩

/-- A number that is removed is live no more; the others are as they were. -/
theorem live_append_unwatch :
    Live (h ++ [.unwatch index]) i watch ↔ Live h i watch ∧ index ≠ i := by
  constructor
  · rintro ⟨before, after, hsplit, hnumber, hkept⟩
    rcases append_eq_split.1 hsplit with ⟨rfl, hlast, rfl⟩ | ⟨rest, rfl, rfl⟩
    · cases hlast
    · refine ⟨⟨before, rest, rfl, hnumber, fun hmem => hkept (List.mem_append_left _ hmem)⟩, ?_⟩
      rintro rfl
      exact hkept (List.mem_append_right _ (List.mem_singleton.2 rfl))
  · rintro ⟨⟨before, after, rfl, hnumber, hkept⟩, hne⟩
    refine ⟨before, after ++ [.unwatch index], append_eq_split.2 (.inr ⟨after, rfl, rfl⟩), hnumber,
      fun hmem => ?_⟩
    rcases List.mem_append.1 hmem with hmem | hmem
    · exact hkept hmem
    · exact hne (Change.unwatch.inj (List.mem_singleton.1 hmem)).symm

end Change

namespace WatchTable

variable {κ : Type} {table : WatchTable κ} {i : Nat} {watch entered : Watch κ} {index : Int}

/-- Registering adds a live watch behind the others. -/
theorem liveAt_add :
    LiveAt (add table entered) i watch ↔
      LiveAt table i watch ∨ (i = table.length ∧ watch = entered) := by
  rw [LiveAt, LiveAt, add, List.getElem?_append]
  split
  next hold =>
    exact ⟨.inl, fun h => h.resolve_right fun hlast => Nat.ne_of_lt hold hlast.1⟩
  next hbehind =>
    have hnone : table[i]? = none := List.getElem?_eq_none_iff.2 (Nat.not_lt.1 hbehind)
    rw [hnone]
    grind

/-- Removing a number leaves the others as they are. -/
theorem liveAt_remove :
    LiveAt (remove table index) i watch ↔ LiveAt table i watch ∧ index ≠ i := by
  rw [LiveAt, LiveAt, remove]
  split
  next hnonneg =>
    rw [List.getElem?_set]
    split
    next heq => grind
    next hne => grind
  next hnegative =>
    have hne : index ≠ (i : Int) := by omega
    exact ⟨fun h => ⟨h, hne⟩, And.left⟩

/-- A number outside the table removes nothing. -/
theorem remove_outside (h : index < 0 ∨ (table.length : Int) ≤ index) :
    remove table index = table := by
  rw [remove]
  split
  next hnonneg => exact List.set_eq_of_length_le (by omega)
  next => rfl

end WatchTable

namespace Watcher

open DwmIpc.Action WatchTable Change

variable {κ : Type} {w : Watcher κ} {history : List (Change κ)}

/-- The watcher has come out of these changes of its table, in this order. In between anything may
have happened that leaves the table alone. -/
inductive After : List (Change κ) → Watcher κ → Prop
  | new (session : Session) : After [] (.new session)
  | watch {history : List (Change κ)} {w : Watcher κ} (event : Text) (callback : κ) :
      After history w → After (history ++ [.watch ⟨event, callback⟩]) (watch event callback w).state
  | unwatch {history : List (Change κ)} {w : Watcher κ} (index : Int) :
      After history w → After (history ++ [.unwatch index]) (unwatch index w).state
  | other {history : List (Change κ)} {w : Watcher κ} (session : Session) :
      After history w → After history { w with session }

/-- The table has a place for each registration. -/
theorem After.length_table (h : After history w) : w.table.length = registered history := by
  induction h with
  | new session => rfl
  | watch event callback _ ih =>
    rw [registered, List.countP_append]
    exact (length_add ..).trans (congrArg (· + 1) ih)
  | unwatch index _ ih =>
    rw [registered, List.countP_append]
    exact (length_remove ..).trans ih
  | other session _ ih => exact ih

/-- The table holds the watches that are live in its history, under their numbers. -/
theorem After.liveAt_iff (h : After history w) (i : Nat) (watch : Watch κ) :
    LiveAt w.table i watch ↔ Live history i watch := by
  induction h with
  | new session =>
    constructor
    · intro hlive
      cases hlive
    · rintro ⟨before, after, hsplit, -⟩
      exact absurd hsplit.symm (by simp)
  | @watch history w event callback hbefore ih =>
    rw [live_append_watch, ← ih, ← hbefore.length_table]
    exact liveAt_add
  | unwatch index hbefore ih =>
    rw [live_append_unwatch, ← ih]
    exact liveAt_remove
  | other session hbefore ih => exact ih

/-- A number is neither given again nor moved: what is live later under a number of now is live
now. -/
theorem live_of_later {later : List (Change κ)} {i : Nat} {watch : Watch κ}
    (hlater : Live (history ++ later) i watch) (hold : i < registered history) :
    Live history i watch := by
  induction later using List.reverseRecOn with
  | nil => rwa [List.append_nil] at hlater
  | append_singleton later change ih =>
    rw [← List.append_assoc] at hlater
    cases change with
    | unwatch index => exact ih (live_append_unwatch.1 hlater).1
    | watch entered =>
      rcases live_append_watch.1 hlater with hbefore | ⟨hnew, -⟩
      · exact ih hbefore
      · have hmore : registered history ≤ registered (history ++ later) := by
          rw [registered, registered, List.countP_append]
          exact Nat.le_add_right ..
        omega

/-! ## Subscriptions on any socket -/

/-- Subscribing makes the subscriptions in order; it stops at the first that fails, and makes all of
them if none does. The table stays as it is. -/
theorem subscribeTo_makes (names : List Text) (w : Watcher κ) :
    ∃ made, made <+: names ∧
      (subscribeTo names w).did =
        (transcript (made.map fun name => onClient (Client.subscribe name)) w).flatMap (·.did) ∧
      (subscribeTo names w).state.table = w.table ∧
      ((subscribeTo names w).value = .ok () → made = names) := by
  induction names generalizing w with
  | nil => exact ⟨[], List.prefix_refl [], rfl, rfl, fun _ => rfl⟩
  | cons name rest ih =>
    have hfirst := onClient_apply (Client.subscribe name) w
    cases hvalue : (Client.subscribe name w.session.client).value with
    | error failure =>
      rw [hvalue] at hfirst
      have hall : subscribeTo (name :: rest) w = _ := bind_error hfirst
      refine ⟨[name], ⟨rest, rfl⟩, ?_, ?_, ?_⟩
      · rw [hall, List.map_singleton, transcript, hfirst]
        exact (List.append_nil _).symm
      · rw [hall]
      · rw [hall]
        intro h
        cases h
    | ok reply =>
      rw [hvalue] at hfirst
      have hall : subscribeTo (name :: rest) w = _ := bind_ok hfirst
      obtain ⟨made, hprefix, hdid, htable, hmade⟩ := ih
        { w with session :=
          { w.session with client := (Client.subscribe name w.session.client).state } }
      refine ⟨name :: made, (List.cons_prefix_cons).2 ⟨rfl, hprefix⟩, ?_, ?_, ?_⟩
      · rw [hall, List.map_cons, transcript, hfirst, List.flatMap_cons, hdid]
      · rw [hall]
        exact htable
      · rw [hall]
        exact fun h => congrArg (name :: ·) (hmade h)

/-! ## The refinement -/

/-- Everything that reads the table reads the history. -/
structure Refines (history : List (Change κ)) (w : Watcher κ) : Prop where
  /-- The next watch gets the number of the registrations so far. -/
  number : ∀ event callback, (watch event callback w).value = .ok (registered history)
  /-- The table holds the live watches under their numbers. -/
  entries : ∀ i watch, LiveAt w.table i watch ↔ Live history i watch
  /-- A number is neither given again nor moved. -/
  lasting : ∀ later w', After (history ++ later) w' → ∀ i watch, i < registered history →
    LiveAt w'.table i watch → LiveAt w.table i watch
  /-- To remove a number that was not given does nothing. -/
  outside : ∀ index : Int, index < 0 ∨ (registered history : Int) ≤ index →
    unwatch index w = ⟨.ok (), [], w⟩
  /-- Whatever the callbacks do, a pass goes from where it stands to the live watch of the event
  with the lowest number. -/
  next : ∀ (fire : Fire κ) (event : Text) (body : Json) (fuel index i : Nat) (watch : Watch κ),
    Live history i watch → watch.event = event → index ≤ i →
    (∀ j other, Live history j other → Watch.event other = event → index ≤ j → i ≤ j) →
    pass fire event body (fuel + (i + 1 - index)) index w = visit fire event body fuel i watch w
  /-- If there is none, it ends and changes nothing. -/
  ends : ∀ (fire : Fire κ) (event : Text) (body : Json) (fuel index : Nat),
    (∀ j other, Live history j other → Watch.event other = event → j < index) →
    registered history ≤ index + fuel →
    pass fire event body fuel index w = ⟨.ok [], [], w⟩
  /-- Those that wait for an event are its live watches, in the order of their numbers. -/
  waits : ∀ event : Text,
    (∀ i watch, (i, watch) ∈ waiting w.table event ↔ Live history i watch ∧ watch.event = event) ∧
      (waiting w.table event).Pairwise fun a b => a.1 < b.1
  /-- Callbacks that keep to themselves are called just for those that wait for the event, and
  recorded under their numbers. -/
  fires : ∀ (fire : Fire κ), Detached fire → ∀ (allowance : Nat) (event : Text) (body : Json),
    Records (passAll allowance fire event body w)
      ((waiting w.table event).map (firing fire body w))
      ((waiting w.table event).map fun x => (x.2, body)) w
  /-- A message is dispatched so field by field. -/
  dispatches : ∀ (fire : Fire κ), Detached fire → ∀ (allowance : Nat) (fields : List (Text × Json))
    (payload : Bytes), Json.readBytes payload = .ok (.obj fields) →
    Records (dispatch allowance fire MessageType.event.toByte.toNat payload w)
      (dueFirings fire w fields) (due w.table fields) w
  /-- The names are those of the live watches. -/
  mem_names : ∀ name, name ∈ names w.table ↔ ∃ i watch, Live history i watch ∧ watch.event = name
  /-- Each stands there once. -/
  nodup_names : (names w.table).Nodup
  /-- They are in the order of their lowest live numbers. -/
  ordered : (names w.table).Pairwise fun a b => ∃ i watch, Live history i watch ∧ watch.event = a ∧
    ∀ j other, Live history j other → other.event = b → i < j
  /-- On any socket, subscriptions are made to these names in their order and to no other, and to
  all of them unless one fails. -/
  subscribes : ∃ made, made <+: names w.table ∧
    (subscribeAll w).did =
      (transcript (made.map fun name => onClient (Client.subscribe name)) w).flatMap (·.did) ∧
    (subscribeAll w).state.table = w.table ∧
    ((subscribeAll w).value = .ok () → made = names w.table)
  /-- If each of them is replied to and can be framed, just their frames are sent, in order. -/
  sends : ∀ number messages failure,
    w.session.client.connection.Streaming number messages failure →
    (∀ name ∈ names w.table, (Call.subscribe name).refused = false) →
    (names w.table).length ≤ messages.length →
    (subscribeAll w).value = .ok () ∧
      Effect.SentOnly number (subscribeFrames (names w.table)) (effects (subscribeAll w).did)
  /-- The first that cannot be framed ends it, and what stands before it is sent. -/
  refuses : ∀ number messages failure,
    w.session.client.connection.Streaming number messages failure →
    ∀ before name after refusal, names w.table = before ++ name :: after →
    (∀ name ∈ before, (Call.subscribe name).refused = false) →
    (Call.subscribe name).wire = .error refusal → before.length ≤ messages.length →
    (subscribeAll w).value = .error refusal ∧
      Effect.SentOnly number (subscribeFrames before) (effects (subscribeAll w).did)

/-- **The table of watches refines its history**: numbers, dispatches, names and subscriptions are
those of the watches that were registered and not removed since, at every moment of every history
of registrations and removals, with any numbers removed. -/
theorem table_refines_history (h : After history w) : Refines history w where
  number event callback := congrArg Except.ok h.length_table
  entries := h.liveAt_iff
  lasting later w' hlater i watch hold hlive := by
    rw [hlater.liveAt_iff] at hlive
    rw [h.liveAt_iff]
    exact live_of_later hlive hold
  outside index houtside := by
    rw [← h.length_table] at houtside
    show (⟨.ok (), [], { w with table := remove w.table index }⟩ : Run _ _ _) = _
    rw [remove_outside houtside]
  next fire event body fuel index i watch hlive hevent hle lowest := by
    obtain ⟨more, hwaiting⟩ := waitingFrom_eq_cons ((h.liveAt_iff i watch).2 hlive) hevent hle
      fun j other hj => lowest j other ((h.liveAt_iff j other).1 hj)
    exact (pass_next hwaiting).2
  ends fire event body fuel index none enough :=
    pass_none (waitingFrom_eq_nil fun j other hj => none j other ((h.liveAt_iff j other).1 hj))
      (h.length_table ▸ enough)
  waits event := by
    refine ⟨fun i watch => ?_, pairwise_waitingFrom w.table event 0⟩
    rw [mem_waiting, h.liveAt_iff]
  fires fire hfire allowance event body := pass_of_detached hfire event body (by omega)
  dispatches fire hfire allowance fields payload hread := by
    have hfields : eventFields MessageType.event.toByte.toNat payload = fields := by
      rw [eventFields, if_neg (fun hne => hne rfl), hread]
    rw [← hfields]
    refine dispatch_of_detached hfire allowance _ (fun inObject hdeep => ?_) w
    rw [hread] at hdeep
    cases hdeep
  mem_names name := by
    simp only [WatchTable.mem_names, h.liveAt_iff]
  nodup_names := WatchTable.nodup_names w.table
  ordered := by
    refine (pairwise_names w.table).imp fun {a b} hprecedes => ?_
    simpa only [Precedes, h.liveAt_iff] using hprecedes
  subscribes := subscribeTo_makes (names w.table) w
  sends number messages failure hstreaming hnames enough := by
    obtain ⟨did, session, hall, hsent, -⟩ := subscribeAll_streams hstreaming hnames enough
    rw [hall]
    exact ⟨rfl, (effects_map_effect (κ := κ) did).symm ▸ hsent⟩
  refuses number messages failure hstreaming before name after refusal hsplit hbefore hwire
      enough := by
    obtain ⟨did, session, hall, hsent⟩ := subscribeAll_fails hstreaming hsplit hbefore enough
      fun client hclient => comes_subscribe_refused hclient hwire
    rw [List.append_nil] at hsent
    rw [hall]
    exact ⟨rfl, (effects_map_effect (κ := κ) did).symm ▸ hsent⟩

/-- The first watch of a name is removed, and two numbers that were never given: the name goes
behind the other one, and the watch that is left keeps its number. -/
theorem table_refines_history_with_removals :
    let a : Text := [.scalar 'a']
    let b : Text := [.scalar 'b']
    let history : List (Change Nat) :=
      [.watch ⟨a, 0⟩, .watch ⟨b, 1⟩, .watch ⟨a, 2⟩, .unwatch 0, .unwatch (-1), .unwatch 3]
    let full : Watcher Nat :=
      (watch a 2 (watch b 1 (watch a 0 (.new (.new (.new none [] false)))).state).state).state
    let w : Watcher Nat := (unwatch 3 (unwatch (-1) (unwatch 0 full).state).state).state
    let fire : Fire Nat := fun _ body => ofExcept (.ok body)
    After history w ∧ (watch a 3 w).value = .ok 3 ∧ unwatch 3 w = ⟨.ok (), [], w⟩ ∧
      Live history 2 ⟨a, 2⟩ ∧ ¬Live history 0 ⟨a, 0⟩ ∧ names w.table = [b, a] ∧
      called (passAll 0 fire a .null w).did = [(⟨a, 2⟩, .null)] := by
  intro a b history full w fire
  have hafter : After history w :=
    .unwatch 3 (.unwatch (-1) (.unwatch 0 (.watch a 2 (.watch b 1 (.watch a 0 (.new _))))))
  have hrefines := table_refines_history hafter
  have hfire : Detached fire := .of_values fun _ _ _ h => by cases h
  refine ⟨hafter, hrefines.number a 3, hrefines.outside 3 (.inr (by decide)),
    (hrefines.entries 2 _).1 rfl, fun hlive => ?_, by decide,
    (hrefines.fires fire hfire 0 a .null).called⟩
  cases (hrefines.entries 0 _).2 hlive

/-- A live name may hold half of a surrogate pair, which has no bytes: no subscription to it is
sent, although a reply would come. -/
theorem no_subscription_to_name_without_bytes :
    let name : Text := [.surrogate 0]
    let e : Endpoint := ⟨[.chunk (Message.frame ⟨5, []⟩)], [], none, none⟩
    let w : Watcher Unit := (watch name () (.new (.new (.new none [e] false)))).state
    After [.watch ⟨name, ()⟩] w ∧ Live [.watch ⟨name, ()⟩] 0 ⟨name, ()⟩ ∧
      w.session.client.connection.Streaming 0 [⟨5, []⟩] (.closedBeforeData 12) ∧
      (subscribeAll w).value = .error (.unencodable ⟨.surrogate 0, 10, 1⟩) ∧
      ¬∃ payload,
        Effect.SentOnly 0 (Message.frame ⟨5, payload⟩) (effects (subscribeAll w).did) := by
  intro name e w
  have hafter : After [.watch ⟨name, ()⟩] w := .watch name () (.new _)
  have hstreaming : w.session.client.connection.Streaming 0 [⟨5, []⟩] (.closedBeforeData 12) :=
    { current := rfl
      connects := fun _ => rfl
      patient := .nil
      fits := by decide
      streams := ⟨[], by decide, .closed (.inl rfl)⟩ }
  refine ⟨hafter, (hafter.liveAt_iff 0 _).1 rfl, hstreaming, rfl, ?_⟩
  rintro ⟨payload, hsent⟩
  have hframe : [] = Message.frame ⟨5, payload⟩ := hsent 0
  have hlength := Message.length_frame ⟨5, payload⟩
  rw [← hframe, List.length_nil] at hlength
  exact absurd hlength (by rw [headerSize]; omega)

end Watcher

end DwmIpc
