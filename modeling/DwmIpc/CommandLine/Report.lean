import DwmIpc.Client
import DwmIpc.CommandLine.Invocation
import DwmIpc.Config.Settings

/-!
# Carrying out a command line

`report` carries out a command line and tells how it ended, what was printed and
logged, and what happened on the sockets. The connection is closed whatever
happens while it is open. Failures of the protocol are logged under their labels;
an interrupt and an output that nobody reads end the program quietly.
-/

namespace DwmIpc.CommandLine

/-- What can be seen while a task is carried out. -/
inductive Event where
  | effect (effect : Effect)
  | printed (text : Text)
  deriving DecidableEq

/-- A client, and how many more texts can be printed before the output breaks, if it ever does. -/
structure Process where
  client : Client
  room : Option Nat
  deriving DecidableEq

/-- An action of the program. -/
abbrev Act := Action Event Process

namespace Process

/-- An action on the client. -/
def onClient {α : Type} (action : Action Effect Client α) : Act α :=
  action.within (·.client) (fun client process => { process with client }) .effect

/-- The failure of printing when nobody reads. -/
def brokenPipe : Failure := .raised (.numbered 32 "Broken pipe")

/-- Prints a text. -/
def print (t : Text) : Act Unit := fun process =>
  match process.room with
  | some 0 => ⟨.error brokenPipe, [], process⟩
  | some (room + 1) => ⟨.ok (), [.printed t], { process with room := some room }⟩
  | none => ⟨.ok (), [.printed t], process⟩

/-- Prints a reply on a line, unless it was kept back. -/
def printReply : Option Message → Act Unit
  | none => return
  | some reply => print (reply.text ++ Text.ofString "\n")

/-- Subscribes to events one after another and prints the replies. -/
def subscribeTo : List Text → Act Unit
  | [] => return
  | event :: rest => do
    printReply (← onClient (Client.subscribe event))
    subscribeTo rest

/-- Prints the next event. -/
def printEvent : Act Unit := do
  printReply (some (← onClient Client.readEvent))

/-- Prints events until a failure, at most `rounds` of them. -/
def follow : (rounds : Nat) → Act Unit
  | 0 => Action.fail .unfinished
  | rounds + 1 => do
    printEvent
    follow rounds

/-- Carries out a task on an open connection. -/
def perform (rounds : Nat) : Task → Act Unit
  | .nothing => return
  | .runCommand name arguments => do
    printReply (← onClient (Client.runCommand name arguments))
  | .getMonitors => do printReply (some (← onClient (Client.exchange .getMonitors)))
  | .getTags => do printReply (some (← onClient (Client.exchange .getTags)))
  | .getLayouts => do printReply (some (← onClient (Client.exchange .getLayouts)))
  | .getClient window => do printReply (some (← onClient (Client.getClient (.str window))))
  | .subscribe event more monitor => do
    subscribeTo (event :: more)
    if monitor then follow rounds else printEvent

/-- Connects, carries out a task, and closes the connection. A failure to close takes the place of
how the task ended. -/
def converse (rounds : Nat) (task : Task) : Act Unit := do
  onClient Client.connect
  let outcome ← (perform rounds task).attempt
  onClient Client.close
  Action.ofExcept outcome

end Process

/-- How a command line ends: with a status, with a status before anything is done, or with a failure
that nothing handles. -/
inductive Ending where
  | finished (status : Nat)
  | stopped (status : Nat)
  | failed (failure : Failure)
  deriving DecidableEq

/-- What comes of a command line. -/
structure Report where
  ending : Ending
  output : Text
  errors : Text
  effects : List Effect
  sockets : List Endpoint

namespace Report

/-- Nothing happened on sockets. -/
def offline (ending : Ending) (output errors : Text) : Report := ⟨ending, output, errors, [], []⟩

/-- A line about a record. -/
def recordLine (record : LogRecord) : Text :=
  programName ++ Text.ofString ": " ++ record.message ++ Text.ofString "\n"

/-- The lines about the records that are urgent enough. -/
def recordLines (least : Level) (records : List LogRecord) : Text :=
  (records.filter fun record => decide (least.rank ≤ record.level.rank)).flatMap recordLine

/-- The lines about records from before the program's name is put in front, which is done once the
settings are known; only warnings and worse are shown. -/
def earlyLines (records : List LogRecord) : Text :=
  (records.filter fun record => decide (Level.warning.rank ≤ record.level.rank)).flatMap
    fun record => record.message ++ Text.ofString "\n"

/-- The status after a failure, and the record about it; no status if nothing handles it. -/
def statusOf (failure : Failure) : Option (Nat × List LogRecord) :=
  match failure.label? with
  | some label =>
    some (1, [⟨.error, .commandLine,
      Text.ofString label ++ Text.ofString ": " ++ failure.message⟩])
  | none =>
    match failure with
    | .raised (.interrupt _) => some (130, [])
    | .raised fault => if fault.isBrokenPipe then some (1, []) else none
    | _ => none

/-- How a conversation ended, and the records about it. -/
def endingOf : Except Failure Unit → Ending × List LogRecord
  | .ok () => (.finished 0, [])
  | .error failure =>
    match statusOf failure with
    | some (status, records) => (.finished status, records)
    | none => (.failed failure, [])

/-- The texts printed. -/
def printedBy (events : List Event) : Text :=
  events.flatMap fun
    | .printed t => t
    | .effect _ => []

/-- What happened on sockets or was logged. -/
def effectsOf (events : List Event) : List Effect :=
  events.filterMap fun
    | .effect e => some e
    | .printed _ => none

/-- The records among effects. -/
def recordsOf (effects : List Effect) : List LogRecord :=
  effects.filterMap fun
    | .log record => some record
    | .call .. => none

/-- The path of the socket: the one that an invocation names, unless that is empty, or the one of
the settings. -/
def socketPath (settings : Settings) (invocation : Invocation) : Text :=
  match invocation.socket with
  | some (c :: rest) => c :: rest
  | _ => settings.socket

/-- The client that an invocation uses under some settings. -/
def clientOf (settings : Settings) (invocation : Invocation) (endpoints : List Endpoint) : Client :=
  Client.new (some (socketPath settings invocation)) endpoints
    (invocation.ignoreReply || settings.ignoreReply)

/-- Every message takes some bytes, so that the bytes to come bound the number of messages. -/
def roundsFor (endpoints : List Endpoint) : Nat :=
  Endpoint.bytesLeft endpoints + 1

/-- Carries out an invocation under some settings. -/
def ofInvocation (settings : Settings) (early : Text) (invocation : Invocation)
    (endpoints : List Endpoint) (room : Option Nat) : Report :=
  let least := if invocation.verbose then Level.debug else settings.level
  let run := Process.converse (roundsFor endpoints) invocation.task
    ⟨clientOf settings invocation endpoints, room⟩
  let happened := effectsOf run.did
  let (ending, last) := endingOf run.value
  let connection := run.state.client.connection
  ⟨ending, printedBy run.did, early ++ recordLines least (recordsOf happened ++ last), happened,
    connection.retired ++ connection.held.toList⟩

/-- Carries out an invocation under the settings that were loaded. -/
def ofLoaded (loaded : Loaded) (invocation : Invocation) (endpoints : List Endpoint)
    (room : Option Nat) : Report :=
  match loaded.outcome with
  | .ok settings =>
    ofInvocation settings (earlyLines loaded.records) invocation endpoints room
  | .error failure =>
    match failure with
    | .badConfig _ =>
      let (ending, records) := endingOf (.error failure)
      offline ending [] (recordLines .warning records)
    | _ => offline (.failed failure) [] []

/-- What comes of stopping early. The help needs room in the output. -/
def ofStop (room : Option Nat) : Stop → Report
  | .help =>
    if room = some 0 then offline (.failed Process.brokenPipe) [] []
    else offline (.stopped 0) help []
  | .misuse misuse => offline (.stopped 2) [] misuse.report

end Report

/-- Carries out a command line, with `find` to look for files. -/
def report (env : Environment) (find : Path → Found) (endpoints : List Endpoint)
    (room : Option Nat) (words : List Text) : Report :=
  match Invocation.parse words with
  | .error stop => Report.ofStop room stop
  | .ok invocation =>
    match invocation.configPath env with
    | .error failure => Report.offline (.failed failure) [] []
    | .ok path => Report.ofLoaded (Settings.load env path (find path)) invocation endpoints room

end DwmIpc.CommandLine
