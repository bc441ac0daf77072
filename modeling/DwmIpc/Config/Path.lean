import DwmIpc.Failure

/-!
# Paths

A path is a root and the parts between the slashes. Empty parts and the part `.`
lead nowhere and are left out; `..` stays, since what it leads to depends on the
file system. An `Environment` says where the user's files are.
-/

namespace DwmIpc

/-- Where a path starts. Exactly two leading slashes are a root of their own. -/
inductive PathRoot where
  | workingDirectory
  | slash
  | twoSlashes
  deriving DecidableEq

/-- A path in the file system. -/
structure Path where
  root : PathRoot
  parts : List Text
  deriving DecidableEq

namespace Path

/-- A slash. -/
def slash : CodePoint := .scalar '/'

/-- Does a part lead somewhere? -/
def isStep (part : Text) : Bool :=
  !part.isEmpty && part != "."

/-- The root that a number of leading slashes stands for. -/
def rootOf (slashes : Nat) : PathRoot :=
  if slashes = 0 then .workingDirectory
  else if slashes = 2 then .twoSlashes
  else .slash

/-- The path that a text names. -/
def ofText (t : Text) : Path :=
  ⟨rootOf (t.takeWhile (· == slash)).length, (partsBetween slash t).filter isStep⟩

/-- A path as a text; a path that leads nowhere is `.`. -/
def text (p : Path) : Text :=
  match p.root, p.parts with
  | .workingDirectory, [] => "."
  | .workingDirectory, parts => Text.joinWith [slash] parts
  | .slash, parts => slash :: Text.joinWith [slash] parts
  | .twoSlashes, parts => slash :: slash :: Text.joinWith [slash] parts

/-- The path that goes on with some parts. -/
def append (p : Path) (parts : List Text) : Path :=
  { p with parts := p.parts ++ parts }

end Path

/-- What the user's environment says about files: the home directory, the directory for
configuration files if there is one, and the home directories of users by their names. -/
structure Environment where
  home : Text
  configHome : Option Text
  users : List (Text × Text)
  deriving DecidableEq

namespace Environment

/-- The users that lines of seven fields between colons list; the name is the first field and the
home directory the sixth. -/
def usersOf (list : Text) : List (Text × Text) :=
  (partsBetween (.scalar '\n') list).filterMap fun line =>
    match partsBetween (.scalar ':') line with
    | [name, _, _, _, _, home, _] => some (name, home)
    | _ => none

/-- A text that begins in a directory, whose own trailing slashes go. -/
def inDirectory (directory rest : Text) : Text :=
  match (directory.reverse.dropWhile (· == Path.slash)).reverse ++ rest with
  | [] => [Path.slash]
  | t => t

/-- The name of a user has bytes, none of which is zero. -/
def checkUser (name : Text) : Except Failure Unit :=
  match Utf8.encodeEscaping name with
  | .error place => .error (.unencodable place)
  | .ok bytes =>
    if bytes.contains 0 then .error (.raised (.invalidValue "embedded null byte")) else .ok ()

/-- Puts a home directory in the place of a leading `~`, or `~` and the name of a user; a name that
no user has stays. -/
def expandHome (env : Environment) (t : Text) : Except Failure Text :=
  match t with
  | .scalar '~' :: rest =>
    let name := rest.takeWhile (· != Path.slash)
    if name.isEmpty then .ok (inDirectory env.home rest)
    else
      (checkUser name).map fun _ =>
        match env.users.find? (·.1 == name) with
        | some (_, home) => inDirectory home (rest.drop name.length)
        | none => t
  | _ => .ok t

/-- The configuration file that is read when no other is named. -/
def configPath (env : Environment) : Path :=
  let base := match env.configHome with
    | some (c :: rest) => c :: rest
    | _ => inDirectory env.home "/.config"
  (Path.ofText base).append ["dwm-msg", "config.yaml"]

end Environment

end DwmIpc
