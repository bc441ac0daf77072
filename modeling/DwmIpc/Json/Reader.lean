import DwmIpc.Json.Value

/-!
# Reading JSON

A document is one value between blanks. Beyond the standard the names `NaN`,
`Infinity` and `-Infinity` are numbers, a `\uXXXX` escape may name a lone
surrogate (a pair of them is one character), and a key given twice keeps its
first place and takes its last value. `Limits` bounds the digits of an integer
and the depth of nesting.
-/

namespace DwmIpc.Json

/-- Why a document cannot be read. -/
inductive ReadError where
  | undecodable
  | malformed
  | tooManyDigits (count : Nat)
  | tooDeep (inObject : Bool)
  deriving DecidableEq

/-- How many digits an integer may have, and how many arrays and objects may be open at a time. -/
structure Limits where
  digits : Option Nat
  depth : Nat

/-- A value and what follows it. -/
abbrev Reading := Except ReadError (Json × Text)

/-- Blanks are the space, the tab and the two line ends. -/
def isBlank : CodePoint → Bool
  | .scalar c => c == ' ' || c == '\t' || c == '\n' || c == '\r'
  | .surrogate _ => false

/-- What follows the blanks at the front. -/
def skipBlanks (t : Text) : Text :=
  t.dropWhile isBlank

/-- The number of four hexadecimal digits. -/
def hex4? (a b c d : CodePoint) : Option Nat := do
  return ((← a.hexValue?) * 0x10 + (← b.hexValue?)) * 0x100 +
    ((← c.hexValue?) * 0x10 + (← d.hexValue?))

/-- The character that a letter after a backslash stands for. -/
def shortEscape? : Char → Option Char
  | '"' => some '"'
  | '\\' => some '\\'
  | '/' => some '/'
  | 'b' => some '\x08'
  | 'f' => some '\x0c'
  | 'n' => some '\n'
  | 'r' => some '\r'
  | 't' => some '\t'
  | _ => none

/-- The character of a surrogate pair. -/
def joinSurrogates (high low : Nat) : CodePoint :=
  .ofNat (0x10000 + (high - 0xD800) * 0x400 + (low - 0xDC00))

/-- The code point of a `\uXXXX` escape after its first two characters, and how many code points
it takes: four, or ten when a second escape completes a surrogate pair. -/
def unicodeEscape? : Text → Option (CodePoint × Nat)
  | a :: b :: c :: d :: rest =>
    match hex4? a b c d with
    | none => none
    | some n =>
      match rest with
      | .scalar '\\' :: .scalar 'u' :: e :: f :: g :: h :: _ =>
        match hex4? e f g h with
        | none => some (.ofNat n, 4)
        | some m =>
          if (CodePoint.ofNat n).isHighSurrogate && (CodePoint.ofNat m).isLowSurrogate then
            some (joinSurrogates n m, 10)
          else some (.ofNat n, 4)
      | _ => some (.ofNat n, 4)
  | _ => none

/-- The code point of an escape after its backslash, and how many code points it takes. -/
def readEscape? : Text → Option (CodePoint × Nat)
  | .scalar 'u' :: rest => (unicodeEscape? rest).map fun (c, taken) => (c, taken + 1)
  | .scalar letter :: _ => (shortEscape? letter).map fun c => (.scalar c, 1)
  | _ => none

/-- Reads the rest of a text after its opening quote. The next `pending` code points belong to an
escape before them; `done` holds what was read, backwards. -/
def readText : (pending : Nat) → (done : Text) → Text → Option (Text × Text)
  | _, _, [] => none
  | pending + 1, done, _ :: rest => readText pending done rest
  | 0, done, c :: rest =>
    if c = .scalar '"' then some (done.reverse, rest)
    else if c = .scalar '\\' then
      match readEscape? rest with
      | none => none
      | some (c, taken) => readText taken (c :: done) rest
    else if c.toNat < 0x20 then none
    else readText 0 (c :: done) rest

/-- The values that are written as a word. -/
def words : List (String × Json) :=
  [("null", .null), ("true", .bool true), ("false", .bool false), ("NaN", .float .nan),
    ("Infinity", .float (.infinite false)), ("-Infinity", .float (.infinite true))]

/-- Reads a value that is written as a word. -/
def readWord? (t : Text) : Option (Json × Text) :=
  words.findSome? fun (word, value) =>
    if t.startsWith word then some (value, t.drop word.length) else none

/-- The digits after a point and what follows them; a point without digits does not belong to the
number. -/
def readFraction (t : Text) : List Char × Text :=
  match t with
  | .scalar '.' :: rest => if (Text.digits rest).isEmpty then ([], t) else (Text.digits rest, Text.afterDigits rest)
  | _ => ([], t)

/-- The exponent and what follows it; a letter without digits does not belong to the number. -/
def readExponent (t : Text) : Option Int × Text :=
  match t with
  | .scalar e :: rest =>
    if e = 'e' ∨ e = 'E' then
      let (sign, rest) : Int × Text :=
        match rest with
        | .scalar '+' :: rest => (1, rest)
        | .scalar '-' :: rest => (-1, rest)
        | _ => (1, rest)
      if (Text.digits rest).isEmpty then (none, t)
      else (some (sign * (Text.number (Text.digits rest) : Nat)), Text.afterDigits rest)
    else (none, t)
  | _ => (none, t)

/-- The digits before the point: a zero, or digits that do not start with one. -/
def readWhole (t : Text) : List Char × Text :=
  match t with
  | .scalar '0' :: rest => (['0'], rest)
  | _ => (Text.digits t, Text.afterDigits t)

/-- Reads a number. It is an integer when it has neither a fraction nor an exponent. -/
def readNumber (limits : Limits) (t : Text) : Reading :=
  let (negative, unsigned) :=
    match t with
    | .scalar '-' :: rest => (true, rest)
    | _ => (false, t)
  let (whole, rest) := readWhole unsigned
  if whole.isEmpty then .error .malformed
  else
    let (fraction, rest) := readFraction rest
    match fraction, readExponent rest with
    | [], (none, rest) =>
      if limits.digits.any (· < whole.length) then .error (.tooManyDigits whole.length)
      else
        let n : Int := (Text.number whole : Nat)
        .ok (.int (if negative then -n else n), rest)
    | _, (exponent, rest) =>
      let m := Text.number (whole ++ fraction)
      .ok (.float (Double.ofDecimal negative m (exponent.getD 0 - fraction.length)), rest)

mutual

/-- Reads a value with no blanks in front; `depth` more arrays and objects may be opened. Of two
steps one takes a code point at least, so fuel for twice their number is enough. -/
def readValue (limits : Limits) : (fuel depth : Nat) → Text → Reading
  | 0, _, _ => .error .malformed
  | fuel + 1, depth, t =>
    match t with
    | .scalar '"' :: rest =>
      match readText 0 [] rest with
      | some (s, rest) => .ok (.str s, rest)
      | none => .error .malformed
    | .scalar '[' :: rest =>
      match depth with
      | 0 => .error (.tooDeep false)
      | depth + 1 =>
        match skipBlanks rest with
        | .scalar ']' :: rest => .ok (.arr [], rest)
        | rest => readItems limits fuel depth [] rest
    | .scalar '\x7b' :: rest =>
      match depth with
      | 0 => .error (.tooDeep true)
      | depth + 1 =>
        match skipBlanks rest with
        | .scalar '\x7d' :: rest => .ok (.obj [], rest)
        | rest => readFields limits fuel depth [] rest
    | _ =>
      match readWord? t with
      | some result => .ok result
      | none => readNumber limits t

/-- Reads the items of an array up to its end; `done` holds those already read, backwards. -/
def readItems (limits : Limits) : (fuel depth : Nat) → (done : List Json) → Text → Reading
  | 0, _, _, _ => .error .malformed
  | fuel + 1, depth, done, t =>
    match readValue limits fuel depth t with
    | .error e => .error e
    | .ok (value, rest) =>
      match skipBlanks rest with
      | .scalar ']' :: rest => .ok (.arr (value :: done).reverse, rest)
      | .scalar ',' :: rest => readItems limits fuel depth (value :: done) (skipBlanks rest)
      | _ => .error .malformed

/-- Reads the fields of an object up to its end; `done` holds those already read, backwards. -/
def readFields (limits : Limits) :
    (fuel depth : Nat) → (done : List (Text × Json)) → Text → Reading
  | 0, _, _, _ => .error .malformed
  | fuel + 1, depth, done, t =>
    match t with
    | .scalar '"' :: rest =>
      match readText 0 [] rest with
      | none => .error .malformed
      | some (key, rest) =>
        match skipBlanks rest with
        | .scalar ':' :: rest =>
          match readValue limits fuel depth (skipBlanks rest) with
          | .error e => .error e
          | .ok (value, rest) =>
            match skipBlanks rest with
            | .scalar '\x7d' :: rest => .ok (.obj (assign done key value).reverse, rest)
            | .scalar ',' :: rest =>
              readFields limits fuel depth (assign done key value) (skipBlanks rest)
            | _ => .error .malformed
        | _ => .error .malformed
    | _ => .error .malformed

end

/-- Reads a document. -/
def read (limits : Limits) (t : Text) : Except ReadError Json :=
  match readValue limits (2 * t.length + 1) limits.depth (skipBlanks t) with
  | .error e => .error e
  | .ok (value, rest) => if (skipBlanks rest).isEmpty then .ok value else .error .malformed

end DwmIpc.Json
