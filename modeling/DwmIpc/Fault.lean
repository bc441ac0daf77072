import DwmIpc.Text.Basic

/-!
# What a call on a socket can fail with

A call on a socket fails with a system error, with a value error or with the
user's interrupt. System errors with certain numbers are transient: the call is
to be made again.
-/

namespace DwmIpc

/-- The reason why a call on a socket failed. -/
inductive Fault where
  | numbered (errno : Int) (message : Text)
  | unnumbered (message : Text)
  | timeout (message : Text)
  | invalidValue (message : Text)
  | interrupt (message : Text)
  deriving DecidableEq

namespace Fault

/-- The text of a fault. -/
def text : Fault → Text
  | numbered errno message =>
    Text.ofString "[Errno " ++ Text.ofInt errno ++ Text.ofString "] " ++ message
  | unnumbered message | timeout message | invalidValue message | interrupt message => message

/-- Did the system report it? -/
def isSystem : Fault → Bool
  | numbered .. | unnumbered _ | timeout _ => true
  | invalidValue _ | interrupt _ => false

/-- The numbers of an interrupted call, and of calls that would have to wait or are still going
on. -/
def transientNumbers : List Int := [4, 11, 114, 115]

/-- The numbers of a write that nobody will read. -/
def brokenPipeNumbers : List Int := [32, 108]

/-- Will nobody read what was written? -/
def isBrokenPipe : Fault → Bool
  | numbered errno _ => brokenPipeNumbers.contains errno
  | _ => false

/-- Is the call to be made again? -/
def isTransient : Fault → Bool
  | numbered errno _ => transientNumbers.contains errno
  | _ => false

theorem isSystem_of_isTransient {f : Fault} (h : f.isTransient = true) : f.isSystem = true := by
  cases f <;> simp_all [isTransient, isSystem]

end Fault

end DwmIpc
