import DwmIpc.Number.Double
import DwmIpc.Text.Basic

/-!
# The shortest decimal that reads back

Of all decimals that are read back as a given double, `shortest` takes one with
the fewest digits, and of those the one nearest to the double. For 1, 2, … 17
digits it tests the two neighbours of the double on that decimal grid; a
neighbour counts when reading it gives the double again, so the result reads
back by construction.
-/

namespace DwmIpc

/-- The number `digits * 10 ^ exponent`. -/
structure Decimal where
  digits : Nat
  exponent : Int
  deriving DecidableEq

namespace Decimal

/-- The double that is read from the decimal. -/
def toDouble (d : Decimal) (negative : Bool) : Double :=
  Double.ofDecimal negative d.digits d.exponent

/-- The numerator of `d / 10 ^ exponent`, for comparing on one grid. -/
def scaled (num den : Nat) (exponent : Int) : Nat × Nat :=
  if 0 ≤ exponent then (num, den * Nat.pow 10 exponent.toNat)
  else (num * Nat.pow 10 (-exponent).toNat, den)

/-- The exponent of the leading decimal digit of `magnitude` units, for a positive magnitude:
an estimate from the binary length, corrected by one comparison. -/
def leadingExponent (magnitude : Nat) : Int :=
  let estimate := ((magnitude.log2 : Int) - 1074) * 30103 / 100000
  let (num, den) := scaled magnitude Double.unitsPerOne (estimate + 1)
  if den ≤ num then estimate + 1 else estimate

/-- Does the decimal read back as a double of this magnitude? -/
def readsBack (d : Decimal) (magnitude : Nat) : Bool :=
  d.toDouble false == .finite false magnitude

/-- The decimal of `exponent` nearest to `magnitude` units that reads back, if one does. -/
def nearest? (magnitude : Nat) (exponent : Int) : Option Decimal :=
  let (num, den) := scaled magnitude Double.unitsPerOne exponent
  let below : Decimal := ⟨num / den, exponent⟩
  let above : Decimal := ⟨num / den + 1, exponent⟩
  let rest := num % den
  match below.readsBack magnitude, above.readsBack magnitude with
  | false, false => none
  | true, false => some below
  | false, true => some above
  | true, true =>
    if 2 * rest < den then some below
    else if den < 2 * rest then some above
    else if (num / den) % 2 = 0 then some below
    else some above

/-- Tries the grids from `exponent` downwards; `fuel` is how many. -/
def search (magnitude : Nat) : (fuel : Nat) → (exponent : Int) → Option Decimal
  | 0, _ => none
  | fuel + 1, exponent =>
    match nearest? magnitude exponent with
    | some d => some d
    | none => search magnitude fuel (exponent - 1)

/-- The exact decimal of `magnitude` units; it has up to 767 digits. -/
def exact (magnitude : Nat) : Decimal :=
  ⟨magnitude * Nat.pow 5 1074, -1074⟩

/-- The shortest decimal for a positive magnitude. -/
def shortest (magnitude : Nat) : Decimal :=
  (search magnitude 17 (leadingExponent magnitude)).getD (exact magnitude)

end Decimal

/-- How a decimal is laid out: without an exponent while the leading digit stands between
`10 ^ positionalFrom` and `10 ^ positionalTo`, that one excluded; the exponent with at least
`exponentDigits` digits. -/
structure DecimalLayout where
  positionalFrom : Int
  positionalTo : Int
  exponentDigits : Nat
  notANumber : String
  infinity : String

namespace DecimalLayout

/-- Numbers as they appear in messages. -/
def plain : DecimalLayout := ⟨-4, 16, 2, "nan", "inf"⟩

/-- Numbers as they appear in JSON documents. -/
def json : DecimalLayout := ⟨-4, 16, 2, "NaN", "Infinity"⟩

/-- The digits without the zeros at their end. -/
def significant (digits : List Char) : List Char :=
  (digits.reverse.dropWhile (· == '0')).reverse

/-- At least `width` decimal digits of `n`. -/
def padded (width n : Nat) : List Char :=
  let digits := Nat.toDigits 10 n
  List.replicate (width - digits.length) '0' ++ digits

/-- Digits whose first one stands for `10 ^ leading`, with a point. -/
def positional (digits : List Char) (leading : Int) : List Char :=
  if leading < 0 then
    '0' :: '.' :: (List.replicate (-leading - 1).toNat '0' ++ digits)
  else
    let whole := leading.toNat + 1
    let fraction := digits.drop whole
    digits.take whole ++ List.replicate (whole - digits.length) '0' ++ '.' ::
      (if fraction.isEmpty then ['0'] else fraction)

/-- Digits whose first one stands for `10 ^ leading`, with an exponent. -/
def scientific (layout : DecimalLayout) (digits : List Char) (leading : Int) : List Char :=
  let mantissa :=
    match digits with
    | [] => ['0']
    | [d] => [d]
    | d :: more => d :: '.' :: more
  mantissa ++ 'e' :: (if leading < 0 then '-' else '+') :: padded layout.exponentDigits leading.natAbs

/-- A positive magnitude. -/
def magnitude (layout : DecimalLayout) (m : Nat) : List Char :=
  let d := Decimal.shortest m
  let digits := Nat.toDigits 10 d.digits
  let leading := d.exponent + (digits.length - 1 : Nat)
  if layout.positionalFrom ≤ leading ∧ leading < layout.positionalTo then
    positional (significant digits) leading
  else layout.scientific (significant digits) leading

/-- The text of a double. -/
def text (layout : DecimalLayout) : Double → Text
  | .nan => layout.notANumber
  | .infinite negative => Text.ofString (if negative then "-" else "") ++ Text.ofString layout.infinity
  | .finite negative m =>
    Text.ofString (if negative then "-" else "") ++
      (if m = 0 then Text.ofString "0.0" else (layout.magnitude m).map .scalar)

end DecimalLayout

end DwmIpc
