import DwmIpc.Client

/-!
# Sessions

A session is a client together with the readers of events that were opened on
it. A reader reads nothing when it is opened, and a reader that failed once is
finished. `Call` lists everything that can be asked of a session.
-/

namespace DwmIpc

/-- A reader of events. -/
inductive Reader where
  | ready
  | finished
  deriving DecidableEq

/-- A client and the readers opened on it. -/
structure Session where
  client : Client
  readers : List Reader
  deriving DecidableEq

/-- What can be asked of a session. -/
inductive Call where
  | connect
  | close
  | enter
  | leave
  | setIgnoreReply (value : Bool)
  | runCommand (name : Text) (arguments : List Text)
  | getMonitors
  | getTags
  | getLayouts
  | getClient (id : Json)
  | subscribe (event : Text)
  | readEvent
  | openReader
  | nextEvent (reader : Nat)

/-- What a call gives back: nothing, the client itself, a message, or the number of a reader. -/
inductive Answer where
  | nothing
  | itself
  | message (message : Message)
  | reader (index : Nat)
  deriving DecidableEq

namespace Session

/-- A session without readers. -/
def new (client : Client) : Session := ⟨client, []⟩

/-- An action on the client of a session. -/
def onClient {α : Type} (action : Action Effect Client α) : Action Effect Session α :=
  action.within (·.client) (fun client session => { session with client }) id

/-- A message, or nothing. -/
def answerOf : Option Message → Answer
  | some message => .message message
  | none => .nothing

/-- Reads the next event through a reader. -/
def nextEvent (index : Nat) : Action Effect Session Message := fun session =>
  match session.readers[index]? with
  | some .ready =>
    let run := onClient Client.readEvent session
    match run.value with
    | .ok _ => run
    | .error _ =>
      { run with state := { run.state with readers := run.state.readers.set index .finished } }
  | _ => ⟨.error .finished, [], session⟩

/-- Answers a call. -/
def step : Call → Action Effect Session Answer
  | .connect | .enter => do
    onClient Client.connect
    return .itself
  | .close | .leave => do
    onClient Client.close
    return .nothing
  | .setIgnoreReply value => do
    onClient (Client.setIgnoreReply value)
    return .nothing
  | .runCommand name arguments => do
    return answerOf (← onClient (Client.runCommand name arguments))
  | .getMonitors => do return .message (← onClient (Client.exchange .getMonitors))
  | .getTags => do return .message (← onClient (Client.exchange .getTags))
  | .getLayouts => do return .message (← onClient (Client.exchange .getLayouts))
  | .getClient id => do return .message (← onClient (Client.getClient id))
  | .subscribe event => do return answerOf (← onClient (Client.subscribe event))
  | .readEvent => do return .message (← onClient Client.readEvent)
  | .openReader => fun session =>
    ⟨.ok (.reader session.readers.length), [],
      { session with readers := session.readers ++ [.ready] }⟩
  | .nextEvent index => do return .message (← nextEvent index)

end Session

end DwmIpc
