import DwmIpc.Fault
import DwmIpc.Json.Reader
import DwmIpc.Log
import DwmIpc.Text.Quoted
import DwmIpc.Text.Utf8
import DwmIpc.Yaml.Problem

/-!
# Why an operation fails

One constructor per cause; `Failure.message` holds all wordings. The failures
that belong to the IPC protocol itself have a `label?`, under which the command
line reports them; the others are refusals of an argument, failures of the
socket or the file system that nothing here handles, and readers that are
finished.
-/

namespace DwmIpc

/-- The first seven bytes of every message. -/
def magic : Bytes := Bytes.ofAscii "DWM-IPC"

/-- The length of a message header: the magic, a 32-bit size and a byte for the type. -/
def headerSize : Nat := 12

/-- The file system's refusal to open a path. -/
structure FileFault where
  errno : Int
  reason : String
  path : Text
  deriving DecidableEq

/-- The text of a refusal. -/
def FileFault.text (f : FileFault) : Text :=
  Text.ofString "[Errno " ++ Text.ofInt f.errno ++ Text.ofString "] " ++ Text.ofString f.reason ++
    Text.ofString ": " ++ Quoted.text f.path

/-- A key of the configuration whose value is checked. -/
inductive ConfigKey where
  | socket
  | ignoreReply
  | logLevel
  deriving DecidableEq

/-- The name of a key in the file. -/
def ConfigKey.name : ConfigKey → String
  | socket => "socket"
  | ignoreReply => "ignore_reply"
  | logLevel => "log_level"

/-- What the value of a key has to be. -/
def ConfigKey.demand : ConfigKey → Text
  | socket => "'socket' must be a non-empty string"
  | ignoreReply => "'ignore_reply' must be true or false"
  | logLevel =>
    Text.ofString "'log_level' must be one of " ++
      Text.joinWith ", " (Level.all.map fun level => Text.ofString level.name)

/-- What is wrong with a configuration file. -/
inductive ConfigProblem where
  | unreadable (path : Text) (fault : FileFault)
  | notYaml (path : Text)
  | notMapping (path : Text)
  | badValue (path : Text) (key : ConfigKey)
  deriving DecidableEq

/-- The text of a problem. -/
def ConfigProblem.message : ConfigProblem → Text
  | unreadable path fault =>
    Text.ofString "Cannot read config file " ++ path ++ Text.ofString ": " ++ fault.text
  | notYaml path => Text.ofString "Invalid YAML in " ++ path
  | notMapping path =>
    Text.ofString "Config file " ++ path ++ Text.ofString " must contain a mapping"
  | badValue path key => path ++ Text.ofString ": " ++ key.demand

/-- The reason why an operation failed. -/
inductive Failure where
  /-- The message does not begin with the magic. -/
  | badMagic (got : Bytes)
  | headerTooShort (got : Nat)
  | payloadTooShort (expected got : Nat)
  /-- The peer closed before the first byte. -/
  | closedBeforeData (expected : Nat)
  | closedMidway (got expected : Nat)
  | closedAfterHeader (expected : Nat)
  | connectFailed (path : Text) (cause : Fault)
  | readFailed (cause : Fault)
  | writeFailed (cause : Fault)
  | badConfig (problem : ConfigProblem)
  | typeOutOfRange (type : Int)
  | payloadTooLarge (size : Int)
  | negativeSize
  /-- Not a window id; `shown` is its literal. -/
  | badWindowId (shown : Text)
  /-- A decimal with too many digits to be read. -/
  | tooManyDigits (count : Nat)
  /-- An integer with too many digits to be written. -/
  | unwritableInteger
  | infiniteInteger
  | undefinedInteger
  /-- A text that has no bytes. -/
  | unencodable (place : Utf8.Unencodable)
  /-- Neither a system error nor handled here. -/
  | raised (fault : Fault)
  | unreadableDocument (error : Json.ReadError)
  | refusedFile (fault : FileFault)
  /-- A file is to be read whose name is missing. -/
  | namelessFile
  | undecodableFile
  /-- A value in the file that cannot be, such as a date that is in no calendar. -/
  | impossibleValue (fault : Yaml.ValueFault)
  /-- The collections in the file are too many inside one another. -/
  | tooDeeplyNested
  /-- The reader of events has failed before. -/
  | finished
  /-- What a callback complains about. -/
  | complaint (text : Text)
  /-- A loop that was given up before its end. -/
  | unfinished
  deriving DecidableEq

namespace Failure

/-- The rule that an integer breaks by its length. -/
def digitRule (count : Option Nat) : Text :=
  Text.ofString "Exceeds the limit (" ++ Text.ofNat maxDigits ++
    Text.ofString " digits) for integer string conversion" ++
    (match count with
      | some n => Text.ofString ": value has " ++ Text.ofNat n ++ Text.ofString " digits"
      | none => []) ++
    Text.ofString "; use sys.set_int_max_str_digits() to increase the limit"

/-- The text for a document that cannot be read. -/
def documentText : Json.ReadError → Text
  | .tooManyDigits count => digitRule (some count)
  | .tooDeep inObject =>
    Text.ofString "maximum recursion depth exceeded while decoding a JSON " ++
      Text.ofString (if inObject then "object" else "array") ++ Text.ofString " from a unicode string"
  | .undecodable | .malformed => []

/-- The text for a run of surrogates that have no bytes. -/
def unencodableText (place : Utf8.Unencodable) : Text :=
  Text.ofString "'utf-8' codec can't encode " ++
    (if place.length = 1 then
      Text.ofString "character '\\u" ++ Quoted.hex 4 place.first.toNat ++
        Text.ofString "' in position " ++ Text.ofNat place.start
    else
      Text.ofString "characters in position " ++ Text.ofNat place.start ++ Text.ofString "-" ++
        Text.ofNat (place.start + place.length - 1)) ++
    Text.ofString ": surrogates not allowed"

/-- The text of a failure. -/
def message : Failure → Text
  | badMagic got =>
    Text.ofString "Invalid magic string: got " ++ Quoted.bytes got ++ Text.ofString ", expected " ++
      Quoted.bytes magic
  | headerTooShort got =>
    Text.ofString "Header too short: need " ++ Text.ofNat headerSize ++
      Text.ofString " bytes, got " ++ Text.ofNat got
  | payloadTooShort expected got =>
    Text.ofString "Payload truncated: expected " ++ Text.ofNat expected ++
      Text.ofString " bytes, got " ++ Text.ofNat got
  | closedBeforeData expected =>
    Text.ofString "Connection closed before any data (expected " ++ Text.ofNat expected ++
      Text.ofString " bytes)"
  | closedMidway got expected =>
    Text.ofString "Connection closed after " ++ Text.ofNat got ++ Text.ofString " of " ++
      Text.ofNat expected ++ Text.ofString " bytes"
  | closedAfterHeader expected =>
    Text.ofString "Connection closed after header; expected " ++ Text.ofNat expected ++
      Text.ofString " payload bytes"
  | connectFailed path cause =>
    Text.ofString "Failed to connect to socket " ++ path ++ Text.ofString ": " ++ cause.text
  | readFailed cause => Text.ofString "Error reading from socket: " ++ cause.text
  | writeFailed cause => Text.ofString "Error writing to socket: " ++ cause.text
  | badConfig problem => problem.message
  | typeOutOfRange type => Text.ofString "Message type out of range: " ++ Text.ofInt type
  | payloadTooLarge size =>
    Text.ofString "Payload too large: " ++ Text.ofInt size ++ Text.ofString " bytes"
  | negativeSize => "argument out of range"
  | badWindowId shown => Text.ofString "Expected unsigned integer window id, got " ++ shown
  | tooManyDigits count => digitRule (some count)
  | unwritableInteger => digitRule none
  | infiniteInteger => "cannot convert float infinity to integer"
  | undefinedInteger => "cannot convert float NaN to integer"
  | unencodable place => unencodableText place
  | raised fault => fault.text
  | unreadableDocument error => documentText error
  | refusedFile fault => fault.text
  | namelessFile => "expected str, bytes or os.PathLike object, not list"
  | undecodableFile => []
  | impossibleValue fault => fault.message
  | tooDeeplyNested => []
  | finished => []
  | complaint text => text
  | unfinished => []

/-- The name under which a failure of the protocol is reported. -/
def label? : Failure → Option String
  | badMagic _ => some "BadMagicError"
  | headerTooShort _ | payloadTooShort .. | closedMidway .. | closedAfterHeader _ =>
    some "TruncatedMessageError"
  | closedBeforeData _ => some "EarlyEOFError"
  | connectFailed .. => some "ConnectFailedError"
  | readFailed _ | writeFailed _ => some "IOFailureError"
  | badConfig _ => some "ConfigError"
  | _ => none

end Failure

end DwmIpc
