import DwmIpc.Json.Value

/-!
# Command arguments

A command line gives every argument as text. An argument that looks like an
integer is sent as one, one that looks like a decimal fraction is sent as the
nearest double, and any other as the text it is. A number that is too long for
an integer and too large for a double stays text.
-/

namespace DwmIpc

/-- The text without one minus sign at its front. -/
def Text.withoutMinus : Text → Text
  | .scalar '-' :: rest => rest
  | t => t

/-- Digits only, and at least one. -/
def Text.isUnsignedInt (t : Text) : Bool :=
  !t.isEmpty && t.all CodePoint.isDigit

/-- Digits with an optional minus sign. -/
def Text.isSignedInt (t : Text) : Bool :=
  t.withoutMinus.isUnsignedInt

/-- Digits with at most one point among them and an optional minus sign; the point is not the last
character, and not the first of the text. -/
def Text.isFloat (t : Text) : Bool :=
  let body := t.withoutMinus
  match Text.afterDigits body with
  | [] => !body.isEmpty
  | .scalar '.' :: fraction =>
    Text.isUnsignedInt fraction && t.head? != some (.scalar '.')
  | _ => false

/-- An argument as it is sent. -/
inductive Argument where
  | int (value : Int)
  | float (value : Double)
  | text (value : Text)
  deriving DecidableEq

namespace Argument

/-- The integer that an optional minus sign and digits denote. -/
def integer (t : Text) : Int :=
  let n : Int := (Text.number (Text.digits t.withoutMinus) : Nat)
  if t.withoutMinus.length < t.length then -n else n

/-- The double nearest to a text that looks like a fraction. -/
def double (t : Text) : Double :=
  let body := t.withoutMinus
  let fraction := Text.digits ((Text.afterDigits body).drop 1)
  Double.ofDecimal (decide (body.length < t.length))
    (Text.number (Text.digits body ++ fraction)) (-fraction.length)

/-- Decides how an argument is sent; an integer may have `limit` digits. -/
def classify (limit : Nat) (t : Text) : Argument :=
  if t.isSignedInt && decide (t.withoutMinus.length ≤ limit) then .int (integer t)
  else if t.isFloat then
    let x := double t
    if x.isFinite then .float x else .text t
  else .text t

/-- The JSON value of an argument. -/
def toJson : Argument → Json
  | int n => .int n
  | float x => .float x
  | text t => .str t

end Argument

end DwmIpc
