import DwmIpc.CommandLine.Usage
import DwmIpc.Text.DecimalDigit

/-!
# The words of a command line

Every word is an operand, the terminator `--`, a switch or unknown. A switch has a
short form of one letter or a long form that may be cut to any beginning that
belongs to one switch only; a value may be attached to either. A negative number
is an operand, and so is a word with a space that is no switch.
-/

namespace DwmIpc.CommandLine

/-- What a word is. -/
inductive Word where
  | operand
  | terminator
  | short (switch : Switch) (attached : Option Text)
  | long (switch : Switch) (attached : Option Text)
  | unknown
  deriving DecidableEq

/-- The hyphen. -/
def hyphen : CodePoint := .scalar '-'

/-- The sign between a switch and its value. -/
def equalsSign : CodePoint := .scalar '='

/-- A text without the line feed at its end, if there is one. -/
def withoutFinalBreak (t : Text) : Text :=
  if t.getLast? = some (.scalar '\n') then t.dropLast else t

/-- Digits, or digits with a point before at least one of them. -/
def isNumeral (t : Text) : Bool :=
  match t.dropWhile CodePoint.isDecimalDigit with
  | [] => !t.isEmpty
  | .scalar '.' :: places => !places.isEmpty && places.all CodePoint.isDecimalDigit
  | _ => false

/-- Is a word a negative number? A line feed at its end makes no difference. -/
def isNegativeNumber : Text → Bool
  | .scalar '-' :: rest => isNumeral (withoutFinalBreak rest)
  | _ => false

namespace Word

/-- What a word with a hyphen is that stands for no switch. -/
def withoutSwitch (t : Text) : Word :=
  if isNegativeNumber t || t.contains (.scalar ' ') then .operand else .unknown

/-- The text after the first equals sign, if there is one. -/
def attachedTo (t : Text) : Option Text :=
  match t.dropWhile (· != equalsSign) with
  | [] => none
  | _ :: value => some value

/-- A word with two hyphens, of which `name` is the rest. -/
def ofLong (t name : Text) : Except Misuse Word :=
  if name.isEmpty then .ok .terminator
  else
    match Switch.abbreviatedBy (name.takeWhile (· != equalsSign)) with
    | [] => .ok (withoutSwitch t)
    | [switch] => .ok (.long switch (attachedTo name))
    | candidates => .error (.ambiguous t candidates)

/-- A word with one hyphen, of which `c` and `rest` is the rest. -/
def ofShort (t : Text) (c : CodePoint) (rest : Text) : Word :=
  match Switch.ofLetter? c with
  | none => withoutSwitch t
  | some switch =>
    match rest with
    | [] => .short switch none
    | .scalar '=' :: value => .short switch (some value)
    | value => .short switch (some value)

/-- What a word is that does not follow the terminator. -/
def ofText (t : Text) : Except Misuse Word :=
  match t with
  | .scalar '-' :: .scalar '-' :: name => ofLong t name
  | .scalar '-' :: c :: rest => .ok (ofShort t c rest)
  | _ => .ok .operand

end Word

/-- The words of a command line with what they are; after the terminator all are operands. -/
def classify : List Text → Except Misuse (List (Word × Text))
  | [] => .ok []
  | t :: rest =>
    match Word.ofText t with
    | .error misuse => .error misuse
    | .ok .terminator => .ok ((.terminator, t) :: rest.map fun u => (.operand, u))
    | .ok word => (classify rest).map ((word, t) :: ·)

end DwmIpc.CommandLine
