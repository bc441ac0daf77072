import DwmIpc.Number.Digits

/-!
# Text that may hold surrogates

Command line words need not be valid UTF-8, and JSON strings may name half of a
surrogate pair. A `CodePoint` is therefore either a Unicode scalar value or one
of the 2048 surrogates, and `Text` is a list of them. A byte that no UTF-8
sequence accounts for stands in a text as the surrogate `U+DC00 + byte`
(`CodePoint.undecoded`).
-/

namespace DwmIpc

/-- A Unicode code point: a scalar value, or the surrogate `U+D800 + offset`. -/
inductive CodePoint where
  | scalar (char : Char)
  | surrogate (offset : Fin 0x800)
  deriving DecidableEq, Inhabited

instance : Hashable CodePoint where
  hash
    | .scalar char => mixHash 0 (instHashableChar.hash char)
    | .surrogate offset => mixHash 1 (hash offset)

namespace CodePoint

/-- The number of the code point. -/
def toNat : CodePoint → Nat
  | scalar c => c.toNat
  | surrogate s => 0xD800 + s.val

/-- The code point of a number; numbers above `0x10FFFF` give `U+0000`. -/
def ofNat (n : Nat) : CodePoint :=
  if h : 0xD800 ≤ n ∧ n < 0xE000 then surrogate ⟨n - 0xD800, by omega⟩ else scalar (Char.ofNat n)

/-- Stands for a byte that is part of no UTF-8 sequence. -/
def undecoded (byte : UInt8) : CodePoint :=
  surrogate ⟨0x400 + byte.toNat, by have := byte.toNat_lt; omega⟩

/-- The byte that a code point stands for; only bytes from `0x80` up are ever escaped. -/
def undecoded? : CodePoint → Option UInt8
  | scalar _ => none
  | surrogate s => if 0x480 ≤ s.val ∧ s.val < 0x500 then some (UInt8.ofNat (s.val - 0x400)) else none

/-- The first half of a surrogate pair. -/
def isHighSurrogate : CodePoint → Bool
  | scalar _ => false
  | surrogate s => s.val < 0x400

/-- The second half of a surrogate pair. -/
def isLowSurrogate (c : CodePoint) : Bool :=
  match c with
  | scalar _ => false
  | surrogate s => 0x400 ≤ s.val

/-- One of the digits `0` to `9`. -/
def isDigit : CodePoint → Bool
  | scalar c => c.isDigit
  | surrogate _ => false

/-- The value of a hexadecimal digit. -/
def hexValue? : CodePoint → Option Nat
  | scalar c =>
    if c.isDigit then some (c.toNat - '0'.toNat)
    else if 'a' ≤ c ∧ c ≤ 'f' then some (c.toNat - 'a'.toNat + 10)
    else if 'A' ≤ c ∧ c ≤ 'F' then some (c.toNat - 'A'.toNat + 10)
    else none
  | surrogate _ => none

theorem undecoded?_undecoded {byte : UInt8} (h : 0x80 ≤ byte.toNat) :
    (undecoded byte).undecoded? = some byte := by
  have := byte.toNat_lt
  have inRange : 0x480 ≤ 0x400 + byte.toNat ∧ 0x400 + byte.toNat < 0x500 := by omega
  simp only [undecoded, undecoded?, if_pos inRange, Nat.add_sub_cancel_left, UInt8.ofNat_toNat]

end CodePoint

/-- A sequence of code points. -/
abbrev Text := List CodePoint

/-- The parts between separators, one more than there are separators. -/
def partsBetween {α : Type} [DecidableEq α] (separator : α) (s : List α) : List (List α) :=
  s.foldr (fun c parts =>
    if c = separator then [] :: parts
    else
      match parts with
      | [] => [[c]]
      | part :: more => (c :: part) :: more) [[]]

namespace Text

/-- Every character of a string is a code point. -/
def ofString (s : String) : Text :=
  s.toList.map .scalar

instance : Coe String Text := ⟨ofString⟩

/-- A natural number in decimal, without leading zeros. -/
def ofNat (n : Nat) : Text :=
  (Nat.toDigits 10 n).map .scalar

/-- An integer in decimal, with a minus sign if it is negative. -/
def ofInt : Int → Text
  | .ofNat n => ofNat n
  | .negSucc n => .scalar '-' :: ofNat (n + 1)

/-- The texts of a list with `separator` between neighbours. -/
def joinWith (separator : Text) (parts : List Text) : Text :=
  (parts.intersperse separator).flatten

/-- Orders texts by their code points, a proper beginning first. -/
def precedes : Text → Text → Bool
  | [], _ => true
  | _ :: _, [] => false
  | a :: s, b :: t => a.toNat < b.toNat || (a.toNat == b.toNat && precedes s t)

/-- The characters of a text, a surrogate becoming the replacement character. -/
def toString (t : Text) : String :=
  String.ofList (t.map fun
    | .scalar c => c
    | .surrogate _ => '\uFFFD')

/-- Does the text begin with this string? -/
def startsWith (t : Text) (s : String) : Bool :=
  (ofString s).isPrefixOf t

/-- The digits at the front. -/
def digits (t : Text) : List Char :=
  (t.takeWhile CodePoint.isDigit).map fun
    | .scalar c => c
    | .surrogate _ => '0'

/-- What follows the digits at the front. -/
def afterDigits (t : Text) : Text :=
  t.dropWhile CodePoint.isDigit

/-- The number that digits denote. -/
def number (digits : List Char) : Nat :=
  Digits.value 10 (digits.map fun c => c.toNat - '0'.toNat)

end Text

end DwmIpc
