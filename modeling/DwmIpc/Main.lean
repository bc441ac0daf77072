import DwmIpc.CommandLine.Report

/-!
# The program

Reads the configuration file and carries out the command line. What the window
manager says is read from standard input, as one recorded side of the
conversation.
-/

namespace DwmIpc.Program

/-- The list of the system's users. -/
def userList : String := "/etc/passwd"

/-- What the environment says. -/
def environment : IO Environment := do
  let users ← (IO.FS.readFile userList).toBaseIO
  return ⟨((← IO.getEnv "HOME").getD "/" : String),
    (← IO.getEnv "XDG_CONFIG_HOME").map Text.ofString,
    Environment.usersOf (Text.ofString (users.toOption.getD ""))⟩

/-- The file at a path. -/
def findFile (path : Path) : IO Found := do
  match ← (IO.FS.readBinFile path.text.toString).toBaseIO with
  | .ok content => return .file content.toList
  | .error (.noFileOrDirectory ..) => return .nothing
  | .error _ => return .directory

/-- Goes on reading to the end. -/
partial def readAll (input : IO.FS.Stream) (read : ByteArray) : IO ByteArray := do
  let chunk ← input.read 0x10000
  if chunk.isEmpty then return read
  readAll input (read ++ chunk)

/-- Writes what is to be written and gives the exit status. -/
def finish (report : CommandLine.Report) : IO UInt32 := do
  (← IO.getStdout).putStr report.output.toString
  (← IO.getStderr).putStr report.errors.toString
  match report.ending with
  | .finished status | .stopped status => return UInt32.ofNat status
  | .failed failure =>
    (← IO.getStderr).putStrLn failure.message.toString
    return 1

/-- Carries out a command line. -/
def run (words : List Text) : IO UInt32 := do
  let env ← environment
  match CommandLine.Invocation.parse words with
  | .error stop => finish (.ofStop none stop)
  | .ok invocation =>
    let found ← match invocation.configPath env with
      | .ok path => findFile path
      | .error _ => pure .nothing
    let heard ← readAll (← IO.getStdin) .empty
    finish (CommandLine.report env (fun _ => found)
      [⟨[.chunk heard.toList], [], none, none⟩] none words)

end DwmIpc.Program

def main (words : List String) : IO UInt32 :=
  DwmIpc.Program.run (words.map DwmIpc.Text.ofString)
