import DwmIpc.Failure
import DwmIpc.Number.Shortest
import DwmIpc.Text.Base64
import DwmIpc.Text.LowerCase
import DwmIpc.Yaml.Tag

/-!
# The values of YAML scalars

`Scalar.ofText` gives the value of a text as one of the kinds of scalars. Tags may
ask for a kind whose form the text does not have, so every reading can fail.
-/

namespace DwmIpc.Yaml

/-- A scalar value. Dates and times of day are kept as their standard texts; a time with an offset
from universal time also as the microsecond that it is. The float NaN is the one that is written
`.nan`; any other way to write a NaN makes one that equals no other, known by a number. -/
inductive Scalar where
  | null
  | bool (value : Bool)
  | int (value : Int)
  | float (value : Double)
  | notANumber (number : Nat)
  | text (value : Text)
  | bytes (value : Bytes)
  | date (value : Text)
  | moment (value : Text) (instant : Option Int)
  deriving DecidableEq

/-! ## Reading a text -/

/-- A fault as the problem of a text. -/
def impossible {α : Type} (fault : ValueFault) : Except Problem α :=
  .error (.impossible fault)

/-- The truth value that a text spells, in any mixture of upper and lower case. -/
def truth (t : Text) : Except Problem Bool :=
  let word := t.lowerCase
  match truthWords.find? fun (name, _) => Text.ofString name == word with
  | some (_, value) => .ok value
  | none => impossible (.badTruth word)

/-- The text of a number without its underscores. -/
def undivided (t : Text) : Text :=
  t.filter (· ≠ .scalar '_')

/-- A number, of which something must be written, without its sign, and whether that is a minus. -/
def unsigned (t : Text) : Except Problem (Bool × Text) :=
  match t with
  | [] => impossible .emptyNumber
  | .scalar '-' :: rest => .ok (true, rest)
  | .scalar '+' :: rest => .ok (false, rest)
  | t => .ok (false, t)

/-- The integer that a text denotes to a base. -/
def basedInteger (base : Nat) (t : Text) : Except Problem Int :=
  match Numeral.integer maxDigits base t with
  | .ok n => .ok n
  | .error (.tooManyDigits count) => .error (.tooManyDigits count)
  | .error .malformed => impossible (.badInteger base t)

/-- The integer that digits to the base 60 denote, each of which is a decimal integer. -/
def sexagesimalInteger (parts : List Text) : Except Problem Int := do
  let digits ← parts.mapM (basedInteger 10)
  return digits.foldl (fun n digit => n * 60 + digit) 0

/-- The integer that an unsigned text denotes. -/
def magnitude (u : Text) : Except Problem Int :=
  match u with
  | [] => impossible .emptyNumber
  | .scalar '0' :: .scalar 'b' :: digits => basedInteger 2 digits
  | .scalar '0' :: .scalar 'x' :: digits => basedInteger 16 digits
  | .scalar '0' :: _ => basedInteger 8 u
  | _ =>
    if u.contains (.scalar ':') then sexagesimalInteger (partsBetween (.scalar ':') u)
    else basedInteger 10 u

/-- The integer that a text denotes. -/
def integer (t : Text) : Except Problem Int := do
  let (negative, u) ← unsigned (undivided t)
  let n ← magnitude u
  return if negative then -n else n

/-- The double that a text denotes. -/
def double (t : Text) : Except Problem Double :=
  match Numeral.double? t with
  | some x => .ok x
  | none => impossible (.badFraction t)

/-- The weight of a digit to the base 60 as a double; it must not be infinite. -/
def sexagesimalWeight (place : Nat) : Except Problem Double :=
  let weight := Double.ofRatio false (Nat.pow 60 place) 1
  if weight.isFinite then .ok weight else impossible .hugeWeight

/-- The double that digits to the base 60 denote, each of which is a fraction; they are summed from
the last one on. -/
def sexagesimalDouble (parts : List Text) : Except Problem Double := do
  let digits ← parts.mapM double
  digits.reverse.zipIdx.foldlM
    (fun total (digit, place) => do
      return total.add (digit.mul (← sexagesimalWeight place)))
    (Double.finite false 0)

/-- The fraction that a text denotes; a NaN that it makes has the number `number`. -/
def fraction (number : Nat) (t : Text) : Except Problem Scalar := do
  let (negative, u) ← unsigned (undivided t).lowerCase
  if u = Text.ofString ".inf" then return .float (.infinite negative)
  if u = Text.ofString ".nan" then return .float .nan
  let x ← (
    if u.contains (.scalar ':') then sexagesimalDouble (partsBetween (.scalar ':') u)
    else double u)
  if x = .nan then return .notANumber number
  return .float (if negative then x.negate else x)

/-- The value of a timestamp. -/
def timestamp (t : Text) : Except Problem Scalar :=
  match ((characters? t).map withoutLineFeed).bind Timestamp.ofCharacters? with
  | none => impossible .badTimestamp
  | some stamp =>
    match stamp.fault? with
    | some fault => impossible fault
    | none =>
      .ok (if stamp.time.isNone then .date stamp.text else .moment stamp.text stamp.instant?)

/-- The value of a text as a scalar of some kind; `number` tells it from other NaNs. -/
def Scalar.ofText (tag : Tag) (number : Nat) (t : Text) : Except Problem Scalar :=
  match tag with
  | .text => .ok (.text t)
  | .null => .ok .null
  | .bool => (truth t).map .bool
  | .int => (integer t).map .int
  | .float => fraction number t
  | .timestamp => timestamp t
  | .binary =>
    match Base64.decode? t with
    | some value => .ok (.bytes value)
    | none => .error .malformed
  | _ => .error .malformed

namespace Scalar

/-- The text of a scalar in a message. -/
def shown : Scalar → Text
  | null => "None"
  | bool true => "True"
  | bool false => "False"
  | int n => Text.ofInt n
  | float x => DecimalLayout.plain.text x
  | notANumber _ => DecimalLayout.plain.text .nan
  | bytes value => Quoted.bytes value
  | text t | date t | moment t _ => t

end Scalar

/-! ## Keys -/

/-- What a scalar is as a key. Truth values are the integers 0 and 1 and so are whole doubles the
integers that they equal; a time with an offset is the instant that it is. -/
inductive Key where
  | null
  | integer (value : Int)
  | fraction (value : Double)
  | notANumber (number : Nat)
  | text (value : Text)
  | bytes (value : Bytes)
  | date (value : Text)
  | moment (value : Text)
  | instant (microsecond : Int)
  deriving DecidableEq, Hashable

/-- The key that a scalar is; two scalars are the same key if they give the same one. -/
def Scalar.key : Scalar → Key
  | null => .null
  | bool value => .integer (if value then 1 else 0)
  | int value => .integer value
  | float value =>
    match value.whole? with
    | some n => .integer n
    | none => .fraction value
  | notANumber number => .notANumber number
  | text value => .text value
  | bytes value => .bytes value
  | date value => .date value
  | moment value none => .moment value
  | moment _ (some microsecond) => .instant microsecond

end DwmIpc.Yaml
