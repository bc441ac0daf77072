import DwmIpc.Yaml.Problem

/-!
# Reading positions in a YAML text

A `Cursor` is what is left of a text together with the place it is at. Line
breaks are the line feed, U+0085, U+2028 and U+2029; the first two become a line
feed in a scalar, the others stay.
-/

namespace DwmIpc.Yaml

/-- A byte order mark. -/
def byteOrderMark : CodePoint := .scalar '\uFEFF'

/-- Does a code point end a line? -/
def isBreak (c : CodePoint) : Bool :=
  c == .scalar '\n' || c == .scalar '\x85' || c == .scalar '\u2028' || c == .scalar '\u2029'

/-- A space. -/
def isSpace (c : CodePoint) : Bool :=
  c == .scalar ' '

/-- A space or a tab. -/
def isBlank (c : CodePoint) : Bool :=
  isSpace c || c == .scalar '\t'

/-- Is the code point one of these characters? -/
def isOneOf (c : CodePoint) (characters : String) : Bool :=
  (Text.ofString characters).contains c

/-- May code points of this number stand in a document? -/
def isAllowed (c : CodePoint) : Bool :=
  let n := c.toNat
  n = 0x09 || n = 0x0A || n = 0x0D || n = 0x85 || (0x20 ≤ n && n ≤ 0x7E) ||
    (0xA0 ≤ n && n ≤ 0xD7FF) || (0xE000 ≤ n && n ≤ 0xFFFD) || 0x10000 ≤ n

/-- Does a word end before `next`? It does before blanks, breaks and the end. -/
def endsWord : Option CodePoint → Bool
  | none => true
  | some c => isBlank c || isBreak c

/-- Does a line end before `next`? -/
def endsLine : Option CodePoint → Bool
  | none => true
  | some c => isBreak c

/-- Does a line end before `next`, or is it a space? -/
def endsSpaced (next : Option CodePoint) : Bool :=
  endsLine next || next == some (.scalar ' ')

/-- A letter or digit of ASCII, or one of the characters `-` and `_`. -/
def isNameCharacter : CodePoint → Bool
  | .scalar c => c.isAlphanum || c == '-' || c == '_'
  | .surrogate _ => false

/-- A place in a text: what follows, the line and the column from 0, how many code points went
before, and how many the text has. -/
structure Cursor where
  rest : Text
  line : Nat
  column : Nat
  index : Nat
  size : Nat

namespace Cursor

/-- The beginning of a text. -/
def start (t : Text) : Cursor := ⟨t, 0, 0, 0, t.length⟩

/-- The next code point. -/
def peek (c : Cursor) : Option CodePoint := c.rest.head?

/-- The code point after `n` others. -/
def peekAt (c : Cursor) (n : Nat) : Option CodePoint := c.rest[n]?

/-- Is the next code point this character? -/
def isAt (c : Cursor) (character : Char) : Bool := c.peek == some (.scalar character)

/-- Moves behind one code point. -/
def next (c : Cursor) : Cursor :=
  match c.rest with
  | [] => c
  | x :: rest =>
    if isBreak x then ⟨rest, c.line + 1, 0, c.index + 1, c.size⟩
    else if x = byteOrderMark then ⟨rest, c.line, c.column, c.index + 1, c.size⟩
    else ⟨rest, c.line, c.column + 1, c.index + 1, c.size⟩

/-- Moves behind `n` code points. -/
def advance : Nat → Cursor → Cursor
  | 0, c => c
  | n + 1, c => advance n c.next

/-- The length of the longest beginning of code points that all have a property. -/
def run (p : CodePoint → Bool) (c : Cursor) : Nat :=
  (c.rest.takeWhile p).length

/-- The next `n` code points. -/
def taken (n : Nat) (c : Cursor) : Text := c.rest.take n

/-- Moves behind the code points in front that all have a property. -/
def skip (p : CodePoint → Bool) (c : Cursor) : Cursor :=
  advance (c.run p) c

/-- Moves to the end of the line. -/
def skipLine (c : Cursor) : Cursor :=
  c.skip fun x => !isBreak x

/-- What a line break becomes in a scalar, and the place after it. -/
def lineBreak? (c : Cursor) : Option (CodePoint × Cursor) :=
  match c.peek with
  | some x =>
    if isBreak x then
      some (if x = .scalar '\x85' then .scalar '\n' else x, c.next)
    else none
  | none => none

/-- Is this the mark that separates documents, `---` or `...`? -/
def atSeparator (c : Cursor) : Bool :=
  (c.rest.take 3 == Text.ofString "---" || c.rest.take 3 == Text.ofString "...") &&
    endsWord (c.peekAt 3)

/-- How many steps are enough for any loop that moves forward. -/
def fuel (c : Cursor) : Nat := c.size - c.index + 1

end Cursor

end DwmIpc.Yaml
