import DwmIpc.Number.Double
import DwmIpc.Text.DecimalDigit

/-!
# Numerals

`Numeral.integer` and `Numeral.double?` read a whole text as a number. A sign may
stand in front and blanks around, and the digits may be those of any script. An
integer may have a mark of its base before its digits; a double is a decimal
fraction with or without an exponent, an infinity or a NaN.
-/

namespace DwmIpc.Numeral

/-- Why a text is no integer. -/
inductive Flaw where
  | malformed
  | tooManyDigits (count : Nat)
  deriving DecidableEq

/-- The blanks of ASCII. -/
def isBlank (c : Char) : Bool := c == ' ' || ('\t' ≤ c && c ≤ '\r')

/-- The blanks outside of ASCII. -/
def isWideBlank (n : Nat) : Bool :=
  n = 0x85 || n = 0xA0 || n = 0x1680 || (0x2000 ≤ n && n ≤ 0x200A) || n = 0x2028 || n = 0x2029 ||
    n = 0x202F || n = 0x205F || n = 0x3000

/-- A code point as a character of ASCII. The digits and blanks of all scripts become those of ASCII;
anything else outside of ASCII becomes a question mark, which no numeral holds. -/
def plainCharacter (c : CodePoint) : Char :=
  match c.decimalDigit? with
  | some digit => Nat.digitChar digit
  | none =>
    if isWideBlank c.toNat then ' '
    else if c.toNat < 0x80 then Char.ofNat c.toNat
    else '?'

/-- The characters of a text without the blanks in front. -/
def content (t : Text) : List Char :=
  (t.map plainCharacter).dropWhile isBlank

/-- The text without its sign, and whether that is a minus. -/
def sign : List Char → Bool × List Char
  | '-' :: rest => (true, rest)
  | '+' :: rest => (false, rest)
  | s => (false, s)

/-- The value of a digit to a base up to 16. -/
def digit? (base : Nat) (c : Char) : Option Nat :=
  (CodePoint.scalar c).hexValue?.filter fun value => value < base

/-- The letter that marks a base. -/
def mark? (base : Nat) : Option Char :=
  if base = 2 then some 'b' else if base = 8 then some 'o' else if base = 16 then some 'x' else none

/-- The characters without a zero and the mark of the base in front. -/
def withoutMark (base : Nat) : List Char → List Char
  | '0' :: c :: rest => if mark? base = some c.toLower then rest else '0' :: c :: rest
  | s => s

/-- The integer that a text denotes to a base of 2, 8, 10 or 16; with base 10 it may have `limit`
digits, zeros in front included. -/
def integer (limit base : Nat) (t : Text) : Except Flaw Int :=
  let (negative, s) := sign (content t)
  let s := withoutMark base s
  let digits := s.takeWhile fun c => (digit? base c).isSome
  if base = 10 ∧ limit < digits.length then .error (.tooManyDigits digits.length)
  else if digits.isEmpty || !(s.drop digits.length).all isBlank then .error .malformed
  else
    let n : Int := (Digits.value base (digits.filterMap (digit? base)) : Nat)
    .ok (if negative then -n else n)

/-- The exponent at the end of a fraction: nothing, or `e` and an integer. -/
def exponent? : List Char → Option Int
  | [] => some 0
  | e :: rest =>
    let (negative, digits) := sign rest
    if e.toLower = 'e' ∧ !digits.isEmpty ∧ digits.all Char.isDigit then
      let n : Int := (Text.number digits : Nat)
      some (if negative then -n else n)
    else none

/-- The double nearest to a decimal fraction: digits with a point, of which those before or those
after it may be missing, or digits alone; then an exponent. -/
def fraction? (negative : Bool) (s : List Char) : Option Double :=
  let whole := s.takeWhile Char.isDigit
  let rest := s.drop whole.length
  let places :=
    match rest with
    | '.' :: more => more.takeWhile Char.isDigit
    | _ => []
  let rest :=
    match rest with
    | '.' :: more => more.drop places.length
    | _ => rest
  if whole.isEmpty && places.isEmpty then none
  else
    (exponent? rest).map fun e =>
      Double.ofDecimal negative (Text.number (whole ++ places)) (e - places.length)

/-- The names of infinity. -/
def infinities : List String := ["inf", "infinity"]

/-- The double that a text denotes. -/
def double? (t : Text) : Option Double :=
  let (negative, s) := sign ((content t).reverse.dropWhile isBlank).reverse
  let name := String.ofList (s.map Char.toLower)
  if infinities.contains name then some (.infinite negative)
  else if name = "nan" then some .nan
  else fraction? negative s

end DwmIpc.Numeral
