import DwmIpc.Argument
import DwmIpc.Text.Quoted

/-!
# Usage

The switches of the command line, the texts that explain them, and the ways to
misuse them.
-/

namespace DwmIpc.CommandLine

/-- A switch. -/
inductive Switch where
  | help
  | socket
  | type
  | ignoreReply
  | monitor
  | config
  | verbose
  deriving DecidableEq

namespace Switch

/-- The switches in the order of the help. -/
def all : List Switch := [help, socket, type, ignoreReply, monitor, config, verbose]

/-- The letter of a switch. -/
def letter : Switch → Char
  | help => 'h'
  | socket => 's'
  | type => 't'
  | ignoreReply => 'i'
  | monitor => 'm'
  | config => 'c'
  | verbose => 'v'

/-- The name of a switch. -/
def name : Switch → String
  | help => "help"
  | socket => "socket"
  | type => "type"
  | ignoreReply => "ignore-reply"
  | monitor => "monitor"
  | config => "config"
  | verbose => "verbose"

/-- Is the switch followed by a value? -/
def takesValue : Switch → Bool
  | socket | type | config => true
  | help | ignoreReply | monitor | verbose => false

/-- The switch of a letter. -/
def ofLetter? (c : CodePoint) : Option Switch :=
  all.find? fun switch => c == .scalar switch.letter

/-- The switches whose names begin with a text. -/
def abbreviatedBy (t : Text) : List Switch :=
  all.filter fun switch => t.isPrefixOf (Text.ofString switch.name)

/-- The long form of a switch. -/
def long (switch : Switch) : Text :=
  Text.ofString "--" ++ Text.ofString switch.name

/-- Both forms of a switch, as messages name it. -/
def shown (switch : Switch) : Text :=
  [.scalar '-', .scalar switch.letter, .scalar '/'] ++ switch.long

end Switch

/-- A way to misuse the command line. -/
inductive Misuse where
  | missingValue (switch : Switch)
  | needlessValue (switch : Switch) (value : Text)
  | unknownType
  | ambiguous (word : Text) (candidates : List Switch)
  | unrecognized (words : List Text)
  | monitorWithoutSubscription
  | noCommand
  | noWindow
  | badWindow
  | noEvent
  deriving DecidableEq

/-- The text of a misuse. -/
def Misuse.message : Misuse → Text
  | missingValue switch =>
    Text.ofString "argument " ++ switch.shown ++ Text.ofString ": expected one argument"
  | needlessValue switch value =>
    Text.ofString "argument " ++ switch.shown ++ Text.ofString ": ignored explicit argument " ++
      Quoted.text value
  | unknownType =>
    Text.ofString "argument " ++ Switch.type.shown ++
      Text.ofString ": Unknown message type (known types: command, get_monitors, get_tags, " ++
      Text.ofString "get_layouts, get_dwm_client, subscribe)"
  | ambiguous word candidates =>
    Text.ofString "ambiguous option: " ++ word ++ Text.ofString " could match " ++
      Text.joinWith ", " (candidates.map Switch.long)
  | unrecognized words =>
    Text.ofString "unrecognized arguments: " ++ Text.joinWith " " words
  | monitorWithoutSubscription =>
    "The monitor option -m is used with \"-t subscribe\" exclusively."
  | noCommand => "No command specified"
  | noWindow => "Expected the window id"
  | badWindow => "Expected unsigned integer argument"
  | noEvent => "Expected event name"

/-- The name of the program. -/
def programName : Text := "dwm-msg"

/-- The line that shows how the program is called. -/
def usageLine : Text :=
  "usage: dwm-msg [-h] [-s SOCKET] [-t TYPE] [-i] [-m] [-c CONFIG] [-v] ...\n"

/-- The events that can be subscribed to. -/
def eventNames : List Text :=
  ["tag_change_event", "client_focus_change_event", "layout_change_event",
    "monitor_focus_change_event", "focused_title_change_event", "focused_state_change_event"]

/-- The lines of the help between the usage and the events. -/
def helpLines : List String :=
  ["",
    "Communicate with dwm, the suckless window manager.",
    "",
    "positional arguments:",
    "  message               command name and arguments, window id, or event names",
    "",
    "options:",
    "  -h, --help            show this help message and exit",
    "  -s SOCKET, --socket SOCKET",
    "                        path to the dwm IPC socket",
    "  -t TYPE, --type TYPE  message type (default: run_command)",
    "  -i, --ignore-reply    don't print \"success\" replies from run_command and",
    "                        subscribe",
    "  -m, --monitor         with subscribe, keep listening for events instead of",
    "                        exiting after the first one",
    "  -c CONFIG, --config CONFIG",
    "                        path to a YAML config file",
    "  -v, --verbose         debug logging",
    "",
    "message types:",
    "  run_command <name> [args...]  Run an IPC command",
    "  get_monitors                  Get monitor properties",
    "  get_tags                      Get list of tags",
    "  get_layouts                   Get list of layouts",
    "  get_dwm_client <window_id>    Get dwm client properties",
    "  subscribe [events...]         Subscribe to specified events",
    ""]

/-- The help. -/
def help : Text :=
  usageLine ++ helpLines.flatMap (fun line => Text.ofString line ++ Text.ofString "\n") ++
    Text.ofString "events: " ++ Text.joinWith ", " eventNames ++ Text.ofString "\n"

/-- What is written about a misuse: the usage, then the text. -/
def Misuse.report (misuse : Misuse) : Text :=
  usageLine ++ programName ++ Text.ofString ": error: " ++ misuse.message ++ Text.ofString "\n"

end DwmIpc.CommandLine
