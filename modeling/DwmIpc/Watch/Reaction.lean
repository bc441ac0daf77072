import DwmIpc.Watch.Dispatch

/-!
# Ready-made callbacks

Callbacks that are data: they return what they get or a constant, look up a key,
fail, register or remove a watch, subscribe, or wait for the next event
themselves. The last one dispatches inside a dispatch, so `react` takes fuel for
the depth of that.
-/

namespace DwmIpc

/-- What a callback does. -/
inductive Reaction where
  | body
  | const (value : Json)
  | get (key : Text)
  | fail (failure : Failure)
  | unwatch (index : Int)
  | watch (event : Text)
  | subscribe (event : Text)
  | poll

namespace Firing

/-- A firing as a JSON value. -/
def toJson (firing : Firing) : Json :=
  .obj [("index", .int firing.index), ("event", .str firing.event),
    match firing.outcome with
    | .ok result => ("result", result)
    | .error text => ("error", .str text)]

end Firing

namespace Reaction

/-- The value of a key of an object. -/
def lookUp (key : Text) : Json → Except Failure Json
  | .obj fields =>
    match Json.field? fields key with
    | some value => .ok value
    | none => .error (.complaint (Text.ofString "no key " ++ key))
  | _ => .error (.complaint (Text.ofString "no key " ++ key))

/-- Carries out a reaction, up to `fuel` dispatches inside one another. -/
def react (allowance : Nat) : (fuel : Nat) → Watcher.Fire Reaction
  | fuel, entry, received =>
    match entry.callback with
    | .body => return received
    | .const value => return value
    | .get key => Action.ofExcept (lookUp key received)
    | .fail failure => Action.fail failure
    | .unwatch index => do
      Watcher.unwatch index
      return .null
    | .watch event => do return .int (← Watcher.watch event .body)
    | .subscribe event => do
      match ← Watcher.onClient (Client.subscribe event) with
      | some reply => return .str reply.text
      | none => return .null
    | .poll =>
      match fuel with
      | 0 => Action.fail .unfinished
      | fuel + 1 => do
        let firings ← Watcher.pollOnce allowance (react allowance fuel)
        return .arr (firings.map Firing.toJson)

end Reaction

namespace Watcher

/-- How many numbers beyond the first length of the table a pass visits. -/
def allowance : Nat := 0x100000

/-- The bytes that can still be received. -/
def backlog (watcher : Watcher Reaction) : Nat :=
  let connection := watcher.session.client.connection
  Endpoint.bytesLeft (connection.held.toList ++ connection.pending)

/-- What can be asked of a watcher. -/
inductive Call where
  | watch (event : Text) (reaction : Reaction)
  | unwatch (index : Int)
  | names
  | subscribeAll
  | dispatch (type : Int) (payload : Bytes)
  | pollOnce
  | run
  | session (call : DwmIpc.Call)

/-- What a watcher gives back. -/
inductive Answer where
  | nothing
  | index (index : Nat)
  | names (names : List Text)
  | firings (firings : List Firing)
  | session (answer : DwmIpc.Answer)

/-- Answers a call. Each message takes some bytes, so the bytes to come bound the rounds and the
depth of dispatches. -/
def step (call : Call) : Act Reaction Answer := fun watcher =>
  let rounds := watcher.backlog + 1
  let fire := Reaction.react allowance rounds
  (match call with
    | .watch event reaction => do return .index (← Watcher.watch event reaction)
    | .unwatch index => do
      Watcher.unwatch index
      return .nothing
    | .names => return .names (WatchTable.names watcher.table)
    | .subscribeAll => do
      Watcher.subscribeAll
      return .nothing
    | .dispatch type payload => do
      Action.tell ((MessageType.records type).map fun record => .effect (.log record))
      return .firings (← Watcher.dispatch allowance fire type payload)
    | .pollOnce => do return .firings (← Watcher.pollOnce allowance fire)
    | .run => do
      Watcher.run allowance fire rounds
      return .nothing
    | .session call => do return .session (← onSession (Session.step call)) : Act Reaction Answer) watcher

end Watcher

end DwmIpc
