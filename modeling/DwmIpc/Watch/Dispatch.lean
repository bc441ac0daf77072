import DwmIpc.Json.Document
import DwmIpc.Session
import DwmIpc.Watch.Table

/-!
# Dispatching events to callbacks

The payload of an event is a JSON object; each of its fields names an event and
holds what is passed to the callbacks. `dispatch` goes through the fields in
order and, for each, through the table in the order of the numbers, as the table
is at that time: a callback may register and remove watches, and a watch that it
registers for the name at hand is reached in the same pass.

What a callback does is given by `fire`. A failure of a callback is recorded and
does not disturb the others, except the user's interrupt, which ends the
dispatch. Since callbacks may go on registering watches for ever, a pass visits
`allowance` numbers more than the table had at its start, and is given up as
`Failure.unfinished` if that is not enough.
-/

namespace DwmIpc

/-- A session and the watches over it. -/
structure Watcher (κ : Type) where
  session : Session
  table : WatchTable κ

/-- What can be seen of an action of a watcher: also which callback was called with what. -/
inductive WatchEffect (κ : Type) where
  | effect (effect : Effect)
  | called (watch : Watch κ) (body : Json)

/-- What came of calling one callback: its result, or the text of its failure. -/
structure Firing where
  index : Nat
  event : Text
  outcome : Except Text Json

/-- Does a failure end the dispatch? -/
def Failure.escapes : Failure → Bool
  | .raised (.interrupt _) => true
  | .unfinished => true
  | _ => false

namespace Watcher

variable {κ : Type}

/-- A computation on a watcher. -/
abbrev Act (κ : Type) (α : Type) := Action (WatchEffect κ) (Watcher κ) α

/-- What the callbacks of a watcher do when they are called with a value. -/
abbrev Fire (κ : Type) := Watch κ → Json → Act κ Json

/-- A watcher without watches. -/
def new (session : Session) : Watcher κ := ⟨session, []⟩

/-- An action on the session of a watcher. -/
def onSession {α : Type} (action : Action Effect Session α) : Act κ α :=
  action.within (·.session) (fun session watcher => { watcher with session }) .effect

/-- An action on the client of a watcher. -/
def onClient {α : Type} (action : Action Effect Client α) : Act κ α :=
  onSession (Session.onClient action)

/-- Lists a log record. -/
def log (level : Level) (message : Text) : Act κ Unit :=
  Action.tell [.effect (.log ⟨level, .watch, message⟩)]

/-- Registers a callback for an event; gives the number of the watch. -/
def watch (event : Text) (callback : κ) : Act κ Nat := fun watcher =>
  ⟨.ok watcher.table.length, [],
    { watcher with table := WatchTable.add watcher.table ⟨event, callback⟩ }⟩

/-- Removes the watch of a number. -/
def unwatch (index : Int) : Act κ Unit :=
  Action.modify fun watcher => { watcher with table := WatchTable.remove watcher.table index }

/-- Calls one callback and records what came of it. -/
def call (fire : Fire κ) (index : Nat) (watch : Watch κ) (body : Json) : Act κ Firing := do
  Action.tell [.called watch body]
  match ← (fire watch body).attempt with
  | .ok result => return ⟨index, watch.event, .ok result⟩
  | .error failure =>
    if failure.escapes then Action.fail failure
    else
      log .warning (Text.ofString "callback for " ++ watch.event ++ Text.ofString " failed: " ++
        failure.message)
      return ⟨index, watch.event, .error failure.message⟩

/-- Goes through the table from number `index` on and calls the callbacks that wait for `event`. -/
def pass (fire : Fire κ) (event : Text) (body : Json) : (fuel index : Nat) → Act κ (List Firing)
  | fuel, index => fun watcher =>
    match watcher.table[index]? with
    | none => ⟨.ok [], [], watcher⟩
    | some entry =>
      match fuel with
      | 0 => ⟨.error .unfinished, [], watcher⟩
      | fuel + 1 =>
        match entry with
        | none => pass fire event body fuel (index + 1) watcher
        | some watch =>
          if watch.event = event then
            (do
              let firing ← call fire index watch body
              return firing :: (← pass fire event body fuel (index + 1)) : Act κ (List Firing)) watcher
          else pass fire event body fuel (index + 1) watcher

/-- A pass through the whole table. -/
def passAll (allowance : Nat) (fire : Fire κ) (event : Text) (body : Json) : Act κ (List Firing) := do
  let watcher ← Action.get
  pass fire event body (watcher.table.length + allowance) 0

/-- One pass for each field. -/
def dispatchFields (allowance : Nat) (fire : Fire κ) : List (Text × Json) → Act κ (List Firing)
  | [] => return []
  | (event, body) :: rest => do
    let firings ← passAll allowance fire event body
    return firings ++ (← dispatchFields allowance fire rest)

/-- How many bytes of a payload are shown when it is no JSON. -/
def shownBytes : Nat := 80

/-- Calls the callbacks that wait for the events of a message. Only messages of the type for events
count, and only payloads that are JSON objects; the others are logged. A document that is nested too
deep is not handled. -/
def dispatch (allowance : Nat) (fire : Fire κ) (type : Int) (payload : Bytes) :
    Act κ (List Firing) :=
  if type ≠ (MessageType.event.toByte.toNat : Int) then do
    log .debug (Text.ofString "not dispatching message type " ++ Text.ofInt type)
    return []
  else
    match Json.readBytes payload with
    | .ok (.obj fields) => dispatchFields allowance fire fields
    | .ok _ => do
      log .warning "event payload is not a JSON object"
      return []
    | .error (.tooDeep inObject) => Action.fail (.unreadableDocument (.tooDeep inObject))
    | .error _ => do
      log .warning (Text.ofString "event payload is not valid JSON: " ++
        Quoted.bytes (payload.take shownBytes))
      return []

/-- Waits for the next message and dispatches it. -/
def pollOnce (allowance : Nat) (fire : Fire κ) : Act κ (List Firing) := do
  let message ← onClient Client.readEvent
  dispatch allowance fire message.type.toNat message.payload

/-- Subscribes to each of some events. -/
def subscribeTo : List Text → Act κ Unit
  | [] => return
  | event :: rest => do
    let _ ← onClient (Client.subscribe event)
    subscribeTo rest

/-- Subscribes to every event that is watched. -/
def subscribeAll : Act κ Unit := do
  subscribeTo (WatchTable.names (← Action.get).table)

/-- Dispatches messages until a failure, at most `rounds` of them. -/
def dispatchAll (allowance : Nat) (fire : Fire κ) : (rounds : Nat) → Act κ Unit
  | 0 => Action.fail .unfinished
  | rounds + 1 => do
    let _ ← pollOnce allowance fire
    dispatchAll allowance fire rounds

/-- Subscribes, then dispatches messages until a failure, at most `rounds` of them. -/
def run (allowance : Nat) (fire : Fire κ) (rounds : Nat) : Act κ Unit := do
  subscribeAll
  dispatchAll allowance fire rounds

end Watcher

end DwmIpc
