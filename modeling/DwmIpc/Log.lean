import DwmIpc.Text.LowerCase

/-!
# Log records
-/

namespace DwmIpc

/-- How urgent a record is; the later ones are more urgent. -/
inductive Level where
  | debug
  | info
  | warning
  | error
  | critical
  deriving DecidableEq, Inhabited

namespace Level

/-- The levels in ascending order. -/
def all : List Level := [debug, info, warning, error, critical]

/-- The place of a level in the order. -/
def rank : Level → Nat
  | debug => 0
  | info => 1
  | warning => 2
  | error => 3
  | critical => 4

/-- The name of a level in a configuration. -/
def name : Level → String
  | debug => "debug"
  | info => "info"
  | warning => "warning"
  | error => "error"
  | critical => "critical"

/-- The level of a name, in any mixture of upper and lower case. -/
def ofText? (t : Text) : Option Level :=
  let name := t.lowerCase
  all.find? fun level => name == Text.ofString level.name

end Level

/-- The part of the library that makes a record. -/
inductive Origin where
  | protocol
  | connection
  | client
  | watch
  | config
  | commandLine
  deriving DecidableEq

/-- One log record. -/
structure LogRecord where
  level : Level
  origin : Origin
  message : Text
  deriving DecidableEq

end DwmIpc
