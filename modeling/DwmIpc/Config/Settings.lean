import DwmIpc.Config.FileTree
import DwmIpc.Connection
import DwmIpc.Request
import DwmIpc.Yaml.Value

/-!
# Settings

Settings come from a configuration file in YAML. A key that is absent or null
has its default; a value of the wrong kind is refused, the socket first, then the
replies, then the level. Other keys are ignored with a warning.
-/

namespace DwmIpc

/-- What can be configured. -/
structure Settings where
  socket : Text
  ignoreReply : Bool
  level : Level
  deriving DecidableEq

/-- What came of loading settings, and the log records of it. -/
structure Loaded where
  outcome : Except Failure Settings
  records : List LogRecord

namespace Settings

/-- The settings without a configuration. -/
def default : Settings := ⟨Connection.defaultPath, false, .warning⟩

/-- The keys that have a meaning. -/
def knownKeys : List ConfigKey := [.socket, .ignoreReply, .logLevel]

/-- Does a scalar name the key? -/
def isKey (scalar : Yaml.Scalar) (key : ConfigKey) : Bool :=
  scalar == .text key.name

/-- The value of a key, unless it is absent or null. -/
def given? (entries : Yaml.Entries) (key : ConfigKey) : Option Yaml.Value :=
  match entries.find? fun entry => isKey entry.1 key with
  | none | some (_, .scalar .null) => none
  | some (_, value) => some value

/-- The refusal of a value. -/
def refuse {α : Type} (path : Path) (key : ConfigKey) : Except Failure α :=
  .error (.badConfig (.badValue path.text key))

/-- The socket's path, with the home directory for `~`. -/
def socketOf (env : Environment) (path : Path) : Option Yaml.Value → Except Failure Text
  | none => .ok default.socket
  | some (.scalar (.text (c :: rest))) => env.expandHome (c :: rest)
  | some _ => refuse path .socket

/-- Whether replies are kept back. -/
def ignoreReplyOf (path : Path) : Option Yaml.Value → Except Failure Bool
  | none => .ok default.ignoreReply
  | some (.scalar (.bool value)) => .ok value
  | some _ => refuse path .ignoreReply

/-- The level from which records are shown. -/
def levelOf (path : Path) : Option Yaml.Value → Except Failure Level
  | none => .ok default.level
  | some (.scalar (.text name)) =>
    match Level.ofText? name with
    | some level => .ok level
    | none => refuse path .logLevel
  | some _ => refuse path .logLevel

/-- The settings that a mapping gives. -/
def ofEntries (env : Environment) (path : Path) (entries : Yaml.Entries) :
    Except Failure Settings := do
  let socket ← socketOf env path (given? entries .socket)
  let ignoreReply ← ignoreReplyOf path (given? entries .ignoreReply)
  let level ← levelOf path (given? entries .logLevel)
  return ⟨socket, ignoreReply, level⟩

/-- The text of a key; an integer may have too many digits for one. -/
def keyText (key : Yaml.Scalar) : Except Failure Text :=
  match key with
  | .int n => if Request.isUnwritable n then .error .unwritableInteger else .ok key.shown
  | _ => .ok key.shown

/-- The texts of the keys without a meaning, sorted. -/
def unknownKeys (entries : Yaml.Entries) : Except Failure (List Text) := do
  let unknown := entries.filter fun entry => !knownKeys.any (isKey entry.1)
  let texts ← unknown.mapM fun entry => keyText entry.1
  return texts.mergeSort Text.precedes

/-- The warning about keys that are ignored. -/
def warnings (path : Path) (unknown : List Text) : List LogRecord :=
  if unknown.isEmpty then []
  else [⟨.warning, .config,
    path.text ++ Text.ofString ": ignoring unknown keys: " ++ Text.joinWith ", " unknown⟩]

/-- Reads settings from a mapping. -/
def read (env : Environment) (path : Path) (entries : Yaml.Entries) : Loaded :=
  match ofEntries env path entries with
  | .error failure => ⟨.error failure, []⟩
  | .ok settings =>
    match unknownKeys entries with
    | .error failure => ⟨.error failure, []⟩
    | .ok unknown => ⟨.ok settings, warnings path unknown⟩

/-- The failure that a problem of a YAML text is. -/
def failureOf (path : Path) : Yaml.Problem → Failure
  | .malformed => .badConfig (.notYaml path.text)
  | .tooDeep => .tooDeeplyNested
  | .impossible fault => .impossibleValue fault
  | .tooManyDigits count => .tooManyDigits count

/-- A text in which every line ends with a line feed. -/
def unifyLineEnds : Text → Text :=
  go []
where
  /-- Goes on after `done`, which is in reverse. -/
  go (done : Text) : Text → Text
    | [] => done.reverse
    | .scalar '\r' :: .scalar '\n' :: rest => go (.scalar '\n' :: done) rest
    | .scalar '\r' :: rest => go (.scalar '\n' :: done) rest
    | c :: rest => go (c :: done) rest

/-- The document in a configuration file, with `readText` to read its text. -/
def documentBy (readText : Text → Except Yaml.Problem Yaml.Document) (path : Path)
    (content : Bytes) : Except Failure Yaml.Document :=
  match Utf8.decode? content with
  | none => .error .undecodableFile
  | some t => (readText (unifyLineEnds t)).mapError (failureOf path)

/-- Loads settings from what is found at a path, with `readText` to read the text of a file. Without
a file there are the defaults, and so there are with one that holds nothing. -/
def loadBy (readText : Text → Except Yaml.Problem Yaml.Document) (env : Environment)
    (path : Path) : Found → Loaded
  | .nothing =>
    ⟨.ok default, [⟨.debug, .config, Text.ofString "no config file at " ++ path.text⟩]⟩
  | .directory =>
    ⟨.error (.badConfig (.unreadable path.text ⟨21, "Is a directory", path.text⟩)), []⟩
  | .refused fault => ⟨.error (.refusedFile fault), []⟩
  | .file content =>
    match documentBy readText path content with
    | .error failure => ⟨.error failure, []⟩
    | .ok (.other (.scalar .null)) => ⟨.ok default, []⟩
    | .ok (.mapping entries) => read env path entries
    | .ok (.other _) => ⟨.error (.badConfig (.notMapping path.text)), []⟩

/-- Loads settings in YAML. -/
def load : Environment → Path → Found → Loaded :=
  loadBy Yaml.Document.ofText

end Settings

end DwmIpc
