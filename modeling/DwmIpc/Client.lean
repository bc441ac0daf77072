import DwmIpc.Connection
import DwmIpc.Json.Literal
import DwmIpc.Request

/-!
# Clients

A `Client` sends requests, one at a time, and reads exactly one reply after each.
With `ignoreReply` the replies to commands and subscriptions are still read, so
that the next reply lines up, but they are not handed over. After a subscription
the window manager sends events, which are read without asking.
-/

namespace DwmIpc

/-- A connection, and whether replies to commands and subscriptions are kept back. -/
structure Client where
  connection : Connection
  ignoreReply : Bool
  deriving DecidableEq

namespace Client

/-- A client that is not connected. -/
def new (path : Option Text) (endpoints : List Endpoint) (ignoreReply : Bool) : Client :=
  ⟨Connection.new path endpoints, ignoreReply⟩

/-- An action on the connection of a client. -/
def onConnection {α : Type} (action : Action Effect Connection α) : Action Effect Client α :=
  action.within (·.connection) (fun connection client => { client with connection }) id

/-- Lists a log record. -/
def log (record : LogRecord) : Action Effect Client Unit :=
  Action.tell [.log record]

/-- Sends a request and reads its reply. The payload is built before anything is sent. -/
def exchange (request : Request) : Action Effect Client Message := do
  let payload ← Action.ofExcept request.payload
  onConnection (Connection.send request.type.toByte.toNat payload)
  onConnection Connection.receive

/-- As `exchange`, but keeps the reply back if the client ignores replies. -/
def exchangeQuietly (request : Request) : Action Effect Client (Option Message) := do
  let reply ← exchange request
  if (← Action.get).ignoreReply then
    log ⟨.debug, .client,
      Text.ofString "discarding " ++ Text.ofNat reply.payload.length ++
        Text.ofString " byte reply"⟩
    return none
  else return some reply

/-- Runs a command. -/
def runCommand (name : Text) (arguments : List Text) : Action Effect Client (Option Message) :=
  exchangeQuietly (.runCommand name arguments)

/-- Subscribes to an event. -/
def subscribe (event : Text) : Action Effect Client (Option Message) :=
  exchangeQuietly (.subscribe event)

/-- The refusal of a value that is no window id. It shows the value, which takes a literal. -/
def refuseWindow (id : Json) : Except Failure Int :=
  .error (if id.hasLiteral then .badWindowId id.literal else .unwritableInteger)

/-- The window id that a value gives: a natural number, or a text of digits. -/
def windowId (id : Json) : Except Failure Int :=
  match id with
  | .str t =>
    if t.isUnsignedInt then
      if t.length ≤ maxDigits then .ok (Argument.integer t) else .error (.tooManyDigits t.length)
    else refuseWindow id
  | .int n => if 0 ≤ n then .ok n else refuseWindow id
  | _ => refuseWindow id

/-- Asks for the properties of a window. -/
def getClient (id : Json) : Action Effect Client Message := do
  let window ← Action.ofExcept (windowId id)
  exchange (.getClient window)

/-- Waits for the next message that the window manager sends on its own. -/
def readEvent : Action Effect Client Message := do
  let message ← onConnection Connection.receive
  if message.type ≠ MessageType.event.toByte then
    log ⟨.warning, .client,
      Text.ofString "expected an event, got message type " ++ Text.ofNat message.type.toNat⟩
  return message

/-- Connects, unless connected. -/
def connect : Action Effect Client Unit :=
  onConnection Connection.connect

/-- Closes the connection, if connected. -/
def close : Action Effect Client Unit :=
  onConnection Connection.close

/-- Sets whether replies are kept back. -/
def setIgnoreReply (value : Bool) : Action Effect Client Unit :=
  Action.modify fun client => { client with ignoreReply := value }

end Client

end DwmIpc
