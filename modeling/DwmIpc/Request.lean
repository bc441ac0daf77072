import DwmIpc.Argument
import DwmIpc.Frame
import DwmIpc.Json.Writer

/-!
# Requests

What a client can ask for, and the payload that asks for it: a JSON object, or
for the queries without arguments a single zero byte, since a payload must not
be empty.
-/

namespace DwmIpc

/-- A request to the window manager. -/
inductive Request where
  | runCommand (name : Text) (arguments : List Text)
  | getMonitors
  | getTags
  | getLayouts
  | getClient (window : Int)
  | subscribe (event : Text)
  deriving DecidableEq

namespace Request

/-- The type of the message that carries a request. -/
def type : Request → MessageType
  | runCommand .. => .runCommand
  | getMonitors => .getMonitors
  | getTags => .getTags
  | getLayouts => .getLayouts
  | getClient _ => .getClient
  | subscribe _ => .subscribe

/-- The payload of a query without arguments. -/
def placeholder : Bytes := [0]

/-- The JSON value that a request consists of, if it is not a query without arguments. -/
def body? : Request → Option Json
  | runCommand name arguments =>
    some (.obj [("command", .str name),
      ("args", .arr (arguments.map fun a => (Argument.classify maxDigits a).toJson))])
  | getClient window => some (.obj [("client_window_id", .int window)])
  | subscribe event => some (.obj [("event", .str event), ("action", .str "subscribe")])
  | _ => none

/-- Has the integer too many digits to be written? -/
def isUnwritable (n : Int) : Bool :=
  decide (Nat.pow 10 maxDigits ≤ n.natAbs)

/-- Encodes a JSON value. -/
def encodeBody (body : Json) : Except Failure Bytes :=
  match Utf8.encodeEscaping (Json.render .unicode body) with
  | .ok bytes => .ok bytes
  | .error place => .error (.unencodable place)

/-- The payload of a request. -/
def payload (request : Request) : Except Failure Bytes :=
  match request with
  | getClient window =>
    if isUnwritable window then .error .unwritableInteger
    else encodeBody (.obj [("client_window_id", .int window)])
  | _ =>
    match request.body? with
    | none => .ok placeholder
    | some body => encodeBody body

end Request

/-- The window id that a JSON number or truth value stands for: fractions are cut off. -/
def Json.wholeNumber? : Json → Except Failure (Option Int)
  | .bool b => .ok (some (if b then 1 else 0))
  | .int n => .ok (some n)
  | .float x =>
    match x.truncate? with
    | some n => .ok (some n)
    | none => .error (if x = .nan then .undefinedInteger else .infiniteInteger)
  | _ => .ok none

end DwmIpc
