import DwmIpc.CommandLine.Word
import DwmIpc.Config.Path

/-!
# Invocations

`Arguments` are what the words of a command line say; an `Invocation` is what they
ask for, once it is known that the parts fit together. The first operand and
everything after it are the message. Switches that nobody knows are passed over
and reported at the end. The terminator is never a value: attached to a switch, it
leaves the switch without one.
-/

namespace DwmIpc.CommandLine

/-- The kind of a request. -/
inductive Kind where
  | runCommand
  | getMonitors
  | getTags
  | getLayouts
  | getClient
  | subscribe
  deriving DecidableEq

namespace Kind

/-- The names of the kinds. -/
def names : List (String × Kind) :=
  [("command", runCommand), ("run_command", runCommand), ("get_monitors", getMonitors),
    ("get_tags", getTags), ("get_layouts", getLayouts), ("get_dwm_client", getClient),
    ("subscribe", subscribe)]

/-- The kind of a name, in any mixture of upper and lower case. -/
def ofText? (t : Text) : Option Kind :=
  let name := t.lowerCase
  (names.find? fun entry => name == Text.ofString entry.1).map (·.2)

end Kind

/-- Why nothing is done: the help was asked for, or the command line is misused. -/
inductive Stop where
  | help
  | misuse (misuse : Misuse)
  deriving DecidableEq

/-- The configuration file: the usual one, one that is named, or one whose name is missing. -/
inductive ConfigChoice where
  | usual
  | named (name : Text)
  | nameless
  deriving DecidableEq

/-- What a command line says. There is no kind of request if its name is missing. -/
structure Arguments where
  socket : Option Text
  kind : Option Kind
  ignoreReply : Bool
  monitor : Bool
  config : ConfigChoice
  verbose : Bool
  message : List Text
  deriving DecidableEq

/-- A switch with its value, if it has one. -/
structure Setting where
  switch : Switch
  value : Option Text
  deriving DecidableEq

/-- The settings of one word, and whether the next word was used up as a value. -/
structure Settled where
  settings : List Setting
  usesNext : Bool
  deriving DecidableEq

namespace Arguments

/-- What an empty command line says. -/
def empty : Arguments := ⟨none, some .runCommand, false, false, .usual, false, []⟩

/-- The value that is attached to a switch. -/
def attachedValue (t : Text) : Option Text :=
  if t = [hyphen, hyphen] then none else some t

/-- A switch without anything attached; a value must follow as `next`. -/
def settleBare (next : Option Text) (switch : Switch) : Except Misuse Settled :=
  if switch.takesValue then
    match next with
    | some value => .ok ⟨[⟨switch, some value⟩], true⟩
    | none => .error (.missingValue switch)
  else .ok ⟨[⟨switch, none⟩], false⟩

/-- A short switch with what is attached to it: its value, or the letters of more switches. -/
def settleShort (next : Option Text) (switch : Switch) : Text → Except Misuse Settled
  | [] => settleBare next switch
  | c :: rest =>
    if switch.takesValue then .ok ⟨[⟨switch, attachedValue (c :: rest)⟩], false⟩
    else
      match Switch.ofLetter? c with
      | none => .error (.needlessValue switch (c :: rest))
      | some another =>
        (settleShort next another rest).map fun settled =>
          { settled with settings := ⟨switch, none⟩ :: settled.settings }

/-- A value that is attached as a whole. -/
def settleAttached (switch : Switch) (value : Text) : Except Misuse Settled :=
  if switch.takesValue then .ok ⟨[⟨switch, attachedValue value⟩], false⟩
  else .error (.needlessValue switch value)

/-- The settings of a word that is a switch. -/
def settle (next : Option Text) : Word → Except Misuse Settled
  | .short switch none | .long switch none => settleBare next switch
  | .short switch (some []) => settleAttached switch []
  | .short switch (some attached) => settleShort next switch attached
  | .long switch (some attached) => settleAttached switch attached
  | .operand | .terminator | .unknown => .ok ⟨[], false⟩

/-- Carries out a setting. -/
def set (arguments : Arguments) (setting : Setting) : Except Stop Arguments :=
  match setting.switch with
  | .help => .error .help
  | .socket => .ok { arguments with socket := setting.value }
  | .type =>
    match setting.value with
    | none => .ok { arguments with kind := none }
    | some name =>
      match Kind.ofText? name with
      | some kind => .ok { arguments with kind := some kind }
      | none => .error (.misuse .unknownType)
  | .ignoreReply => .ok { arguments with ignoreReply := true }
  | .monitor => .ok { arguments with monitor := true }
  | .config =>
    .ok { arguments with config := (setting.value.map ConfigChoice.named).getD .nameless }
  | .verbose => .ok { arguments with verbose := true }

/-- The first of the words, if it is an operand. -/
def nextOperand : List (Word × Text) → Option Text
  | (.operand, t) :: _ => some t
  | _ => none

/-- Goes through the words. Gives what they say, and the words that nobody knows. -/
def ofWords (arguments : Arguments) (unrecognized : List Text) :
    List (Word × Text) → Except Stop (Arguments × List Text)
  | [] => .ok (arguments, unrecognized)
  | (.unknown, t) :: rest => ofWords arguments (unrecognized ++ [t]) rest
  | (.operand, t) :: rest | (.terminator, t) :: rest =>
    .ok ({ arguments with message := t :: rest.map (·.2) }, unrecognized)
  | (word, _) :: rest =>
    match settle (nextOperand rest) word with
    | .error misuse => .error (.misuse misuse)
    | .ok settled =>
      match settled.settings.foldlM set arguments with
      | .error stop => .error stop
      | .ok changed =>
        ofWords changed unrecognized (if settled.usesNext then rest.tail else rest)
termination_by words => words.length
decreasing_by
  · exact Nat.lt_succ_self _
  · simp only [List.length_cons]
    split
    · simp only [List.length_tail]; omega
    · exact Nat.lt_succ_self _

/-- What a command line says. -/
def parse (words : List Text) : Except Stop Arguments :=
  match classify words with
  | .error misuse => .error (.misuse misuse)
  | .ok classified =>
    match ofWords empty [] classified with
    | .error stop => .error stop
    | .ok (arguments, []) => .ok arguments
    | .ok (_, unrecognized) => .error (.misuse (.unrecognized unrecognized))

end Arguments

/-- What is to be done. A subscription names at least one event. -/
inductive Task where
  | nothing
  | runCommand (name : Text) (arguments : List Text)
  | getMonitors
  | getTags
  | getLayouts
  | getClient (window : Text)
  | subscribe (event : Text) (more : List Text) (monitor : Bool)
  deriving DecidableEq

/-- The task of a kind with a message. -/
def Task.ofKind (monitor : Bool) : Kind → List Text → Except Misuse Task
  | .runCommand, name :: arguments => .ok (.runCommand name arguments)
  | .runCommand, [] => .error .noCommand
  | .getMonitors, _ => .ok .getMonitors
  | .getTags, _ => .ok .getTags
  | .getLayouts, _ => .ok .getLayouts
  | .getClient, window :: _ =>
    if window.isUnsignedInt then .ok (.getClient window) else .error .badWindow
  | .getClient, [] => .error .noWindow
  | .subscribe, event :: more => .ok (.subscribe event more monitor)
  | .subscribe, [] => .error .noEvent

/-- The task of a message; without a kind there is nothing to do. -/
def Task.ofMessage (monitor : Bool) (kind : Option Kind) (message : List Text) :
    Except Misuse Task :=
  match kind with
  | none => .ok .nothing
  | some kind => ofKind monitor kind message

/-- What the user asks for. -/
structure Invocation where
  task : Task
  socket : Option Text
  ignoreReply : Bool
  config : ConfigChoice
  verbose : Bool
  deriving DecidableEq

namespace Invocation

/-- What arguments ask for, if they fit together. -/
def ofArguments (arguments : Arguments) : Except Misuse Invocation :=
  if arguments.monitor && arguments.kind != some .subscribe then .error .monitorWithoutSubscription
  else
    (Task.ofMessage arguments.monitor arguments.kind arguments.message).map fun task =>
      ⟨task, arguments.socket, arguments.ignoreReply, arguments.config, arguments.verbose⟩

/-- What a command line asks for. -/
def parse (words : List Text) : Except Stop Invocation :=
  match Arguments.parse words with
  | .error stop => .error stop
  | .ok arguments => (ofArguments arguments).mapError .misuse

/-- The configuration file that is read. -/
def configPath (env : Environment) (invocation : Invocation) : Except Failure Path :=
  match invocation.config with
  | .usual => .ok env.configPath
  | .named name => .ok (Path.ofText name)
  | .nameless => .error .namelessFile

end Invocation

end DwmIpc.CommandLine
