import DwmIpc.Proofs.Calls
import DwmIpc.Watch.Dispatch

/-!
# A watcher dispatches what comes behind its subscriptions

An action of a watcher is `Offline` if it neither looks at the session nor changes
it. Dispatching a message is offline if the callbacks are. So a running watcher
first takes one message for each subscription, whatever it is, and then dispatches
the other messages one by one: `run_dispatches` says that its callbacks are called
as they are by dispatching just these messages (`dispatchEach`).
-/

namespace DwmIpc.Watcher

open DwmIpc.Action

variable {κ α β : Type}

/-! ## Actions that leave the session alone -/

/-- The action neither looks at the session nor changes it. -/
def Offline (m : Act κ α) : Prop :=
  ∀ w session, m { w with session } = ⟨(m w).value, (m w).did, { (m w).state with session }⟩

/-- The callbacks called, and what with. -/
def called (effects : List (WatchEffect κ)) : List (Watch κ × Json) :=
  effects.filterMap fun
    | .called watch body => some (watch, body)
    | .effect _ => none

@[simp] theorem called_append (a b : List (WatchEffect κ)) :
    called (a ++ b) = called a ++ called b :=
  List.filterMap_append

/-- What is done on a session calls no callback. -/
@[simp] theorem called_map_effect (effects : List Effect) :
    called (effects.map (WatchEffect.effect (κ := κ))) = [] := by
  induction effects with
  | nil => rfl
  | cons effect rest ih => exact ih

theorem offline_pure (a : α) : Offline (pure a : Act κ α) :=
  fun _ _ => rfl

theorem offline_fail (failure : Failure) : Offline (fail failure : Act κ α) :=
  fun _ _ => rfl

theorem offline_tell (events : List (WatchEffect κ)) : Offline (tell events : Act κ Unit) :=
  fun _ _ => rfl

theorem Offline.bind {m : Act κ α} {f : α → Act κ β} (hm : Offline m) (hf : ∀ a, Offline (f a)) :
    Offline (m >>= f) := by
  intro w session
  have hother := hm w session
  cases hrun : m w with
  | mk value did t =>
    rw [hrun] at hother
    cases value with
    | ok a => rw [bind_ok hrun, bind_ok hother, hf a t session]
    | error failure => rw [bind_error hrun, bind_error hother]

/-- What leaves the socket alone still does so when its failure is caught. -/
theorem Offline.attempt {m : Act κ α} (hm : Offline m) : Offline m.attempt := by
  intro w session
  rw [Action.attempt, Action.attempt, hm w session]

/-- To call back leaves the socket alone if the callbacks do. -/
theorem offline_call {fire : Fire κ} (hfire : ∀ watch body, Offline (fire watch body)) (index : Nat)
    (watch : Watch κ) (body : Json) : Offline (call fire index watch body) := by
  refine (offline_tell _).bind fun _ => (hfire watch body).attempt.bind fun outcome => ?_
  cases outcome with
  | ok result => exact offline_pure _
  | error failure =>
    show Offline (if failure.escapes then _ else _ : Act κ Firing)
    split
    next => exact offline_fail _
    next => exact (offline_tell _).bind fun _ => offline_pure _

/-- A pass over the table leaves the socket alone. -/
theorem offline_pass {fire : Fire κ} (hfire : ∀ watch body, Offline (fire watch body))
    (event : Text) (body : Json) (fuel index : Nat) :
    Offline (pass fire event body fuel index) := by
  induction fuel generalizing index with
  | zero =>
    intro w session
    unfold pass
    cases w.table[index]? <;> rfl
  | succ fuel ih =>
    intro w session
    unfold pass
    cases w.table[index]? with
    | none => rfl
    | some entry =>
      cases entry with
      | none => exact ih (index + 1) w session
      | some watch =>
        simp only []
        split
        next =>
          exact (offline_call hfire index watch body).bind
            (fun _ => (ih (index + 1)).bind fun _ => offline_pure _) w session
        next => exact ih (index + 1) w session

theorem offline_passAll {fire : Fire κ} (hfire : ∀ watch body, Offline (fire watch body))
    (allowance : Nat) (event : Text) (body : Json) : Offline (passAll allowance fire event body) :=
  fun w session => offline_pass hfire event body (w.table.length + allowance) 0 w session

theorem offline_dispatchFields {fire : Fire κ} (hfire : ∀ watch body, Offline (fire watch body))
    (allowance : Nat) (fields : List (Text × Json)) :
    Offline (dispatchFields allowance fire fields) := by
  induction fields with
  | nil => exact offline_pure _
  | cons field rest ih =>
    exact (offline_passAll hfire allowance field.1 field.2).bind fun _ =>
      ih.bind fun _ => offline_pure _

/-- An event is dispatched without the socket. -/
theorem offline_dispatch {fire : Fire κ} (hfire : ∀ watch body, Offline (fire watch body))
    (allowance : Nat) (type : Int) (payload : Bytes) :
    Offline (dispatch allowance fire type payload) := by
  have logged (level : Level) (message : Text) :
      Offline (do log level message; return [] : Act κ (List Firing)) :=
    (offline_tell _).bind fun _ => offline_pure _
  unfold dispatch
  split
  next => exact logged _ _
  next =>
    split
    next => exact offline_dispatchFields hfire allowance _
    next => exact logged _ _
    next => exact offline_fail _
    next => exact logged _ _

/-! ## Dispatching one by one -/

/-- Dispatches messages one after another, until a dispatch fails. -/
def dispatchEach (allowance : Nat) (fire : Fire κ) : List Message → Act κ Unit
  | [] => return
  | m :: rest => do
    let _ ← dispatch allowance fire m.type.toNat m.payload
    dispatchEach allowance fire rest

theorem offline_dispatchEach {fire : Fire κ} (hfire : ∀ watch body, Offline (fire watch body))
    (allowance : Nat) (messages : List Message) :
    Offline (dispatchEach allowance fire messages) := by
  induction messages with
  | nil => exact offline_pure _
  | cons m rest ih => exact (offline_dispatch hfire allowance _ _).bind fun _ => ih

/-- How a loop ends whose dispatches ended like this: with their failure, or with the stream. -/
def loopEnd : Except Failure Unit → Except Failure Unit
  | .ok () => .error (.closedBeforeData headerSize)
  | .error failure => .error failure

variable {messages : List Message} {w : Watcher κ}

/-- An action of the client, in a watcher. -/
theorem onClient_apply (m : Action Effect Client α) (w : Watcher κ) :
    onClient m w = ⟨(m w.session.client).value, (m w.session.client).did.map .effect,
      { w with session := { w.session with client := (m w.session.client).state } }⟩ := by
  rw [onClient, onSession, within, Session.onClient, within, List.map_id]

/-- A round takes the first message, and dispatches it as if it had not been taken from here. -/
theorem pollOnce_dispatches {m : Message} {rest : List Message}
    (h : w.session.client.connection.Delivering (m :: rest)) {fire : Fire κ}
    (hfire : ∀ watch body, Offline (fire watch body)) (allowance : Nat) :
    ∃ (effects : List Effect) (session : Session), session.client.connection.Delivering rest ∧
      pollOnce allowance fire w =
        ⟨(dispatch allowance fire m.type.toNat m.payload w).value,
          effects.map .effect ++ (dispatch allowance fire m.type.toNat m.payload w).did,
          { (dispatch allowance fire m.type.toNat m.payload w).state with session }⟩ := by
  have hread := Client.yields_readEvent h
  have hpoll := onClient_apply Client.readEvent w
  rw [hread.value] at hpoll
  refine ⟨(Client.readEvent w.session.client).did,
    { w.session with client := (Client.readEvent w.session.client).state }, hread.left, ?_⟩
  have hround : pollOnce allowance fire w = _ := bind_ok hpoll
  rw [hround, offline_dispatch hfire allowance m.type.toNat m.payload w]

/-- The loop dispatches just the messages that are delivered, in order. -/
theorem dispatchAll_dispatches (h : w.session.client.connection.Delivering messages) {fire : Fire κ}
    (hfire : ∀ watch body, Offline (fire watch body)) (allowance : Nat) {rounds : Nat}
    (hrounds : messages.length < rounds) :
    called (dispatchAll allowance fire rounds w).did =
        called (dispatchEach allowance fire messages w).did ∧
      (dispatchAll allowance fire rounds w).value =
        loopEnd (dispatchEach allowance fire messages w).value := by
  induction messages generalizing w rounds with
  | nil =>
    -- nothing is left to take: the loop ends with the stream
    obtain ⟨rounds, rfl⟩ := Nat.exists_eq_succ_of_ne_zero (Nat.ne_of_gt hrounds)
    have hread := Client.yields_readEvent h
    have hpoll := onClient_apply Client.readEvent w
    rw [hread.value] at hpoll
    have hrun : dispatchAll allowance fire (rounds + 1) w = _ := bind_error (bind_error hpoll)
    rw [hrun]
    exact ⟨called_map_effect _, rfl⟩
  | cons m rest ih =>
    obtain ⟨rounds, rfl⟩ := Nat.exists_eq_succ_of_ne_zero (Nat.ne_of_gt (Nat.zero_lt_of_lt hrounds))
    obtain ⟨effects, session, hleft, hround⟩ := pollOnce_dispatches h hfire allowance
    cases hrun : dispatch allowance fire m.type.toNat m.payload w with
    | mk value did t =>
      rw [hrun] at hround
      cases value with
      | ok firings =>
        have hloop : dispatchAll allowance fire (rounds + 1) w = _ := bind_ok hround
        have heach : dispatchEach allowance fire (m :: rest) w = _ := bind_ok hrun
        -- the other messages are dispatched from here on, again in another session
        obtain ⟨hcalled, hvalue⟩ :=
          ih (w := { t with session }) hleft (Nat.lt_of_succ_lt_succ hrounds)
        have hsame := offline_dispatchEach hfire allowance rest t session
        rw [hsame] at hcalled hvalue
        rw [hloop, heach]
        refine ⟨?_, hvalue⟩
        simp only [called_append, called_map_effect, List.nil_append, hcalled]
      | error failure =>
        -- a dispatch that fails ends both
        have hloop : dispatchAll allowance fire (rounds + 1) w = _ := bind_error hround
        have heach : dispatchEach allowance fire (m :: rest) w = _ := bind_error hrun
        rw [hloop, heach]
        exact ⟨by simp only [called_append, called_map_effect, List.nil_append], rfl⟩

/-- Each subscription takes one message, and calls no callback. -/
theorem subscribeTo_takes (h : w.session.client.connection.Delivering messages) {names : List Text}
    (hnames : ∀ name ∈ names, (Call.subscribe name).refused = false)
    (enough : names.length ≤ messages.length) :
    ∃ did session, subscribeTo names w = ⟨.ok (), did, { w with session }⟩ ∧ called did = [] ∧
      session.client.connection.Delivering (messages.drop names.length) := by
  induction names generalizing w messages with
  | nil => exact ⟨[], w.session, rfl, rfl, h⟩
  | cons name rest ih =>
    cases messages with
    | nil => exact absurd enough (Nat.not_succ_le_zero _)
    | cons m left =>
      obtain ⟨bytes, hframe⟩ := Call.wire_of_not_refused (hnames name (List.mem_cons_self ..))
      have hexchange := Client.yields_exchangeQuietly h hframe
      have hrun := onClient_apply (Client.subscribe name) w
      have hvalue : (Client.subscribe name w.session.client).value = .ok _ := hexchange.value
      rw [hvalue] at hrun
      obtain ⟨did, session, hrest, hcalled, hleft⟩ :=
        ih (w := { w with session :=
            { w.session with client := (Client.subscribe name w.session.client).state } })
          hexchange.left (fun n hn => hnames n (List.mem_cons_of_mem _ hn))
          (Nat.le_of_succ_le_succ enough)
      have hall : subscribeTo (name :: rest) w = _ := bind_ok hrun
      rw [hrest] at hall
      refine ⟨_, session, hall, ?_, hleft⟩
      rw [called_append, called_map_effect, hcalled]
      rfl

/-- A running watcher takes one message for each name, and dispatches the others. -/
theorem run_dispatches (h : w.session.client.connection.Delivering messages) {fire : Fire κ}
    (hfire : ∀ watch body, Offline (fire watch body)) (allowance : Nat) {rounds : Nat}
    (hnames : ∀ name ∈ WatchTable.names w.table, (Call.subscribe name).refused = false)
    (enough : (WatchTable.names w.table).length ≤ messages.length)
    (hrounds : messages.length < rounds) :
    let behind := messages.drop (WatchTable.names w.table).length
    called (run allowance fire rounds w).did = called (dispatchEach allowance fire behind w).did ∧
      (run allowance fire rounds w).value =
        loopEnd (dispatchEach allowance fire behind w).value := by
  intro behind
  obtain ⟨did, session, hsubscribe, hcalled, hleft⟩ := subscribeTo_takes h hnames enough
  have hall : subscribeAll w = ⟨.ok (), [] ++ did, { w with session }⟩ := by
    have hget : (Action.get : Act κ (Watcher κ)) w = ⟨.ok w, [], w⟩ := rfl
    rw [subscribeAll, bind_ok hget, hsubscribe]
  have hrun : run allowance fire rounds w = _ := bind_ok hall
  have hbehind : behind.length < rounds := by
    rw [List.length_drop]
    omega
  obtain ⟨hloop, hvalue⟩ :=
    dispatchAll_dispatches (w := { w with session }) hleft hfire allowance hbehind
  have hsame := offline_dispatchEach hfire allowance behind w session
  rw [hsame] at hloop hvalue
  rw [hrun]
  refine ⟨?_, hvalue⟩
  simp only [called_append, hcalled, hloop, List.nil_append]

end DwmIpc.Watcher
