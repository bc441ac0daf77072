import DwmIpc.Json.Value
import DwmIpc.Number.Shortest
import DwmIpc.Text.Quoted

/-!
# Writing JSON

Documents are compact: no blanks, fields in their order. `Charset` decides
whether characters that are not printable ASCII are written as they are or as
`\uXXXX` escapes.
Every function keeps its output backwards in `done`, so that long arrays need no
deep stack; `render` turns it round.
-/

namespace DwmIpc.Json

/-- Which characters are written as they are. -/
inductive Charset where
  | unicode
  | ascii
  deriving DecidableEq

/-- The escape of a 16-bit unit. -/
def unicodeEscape (n : Nat) : Text :=
  Text.ofString "\\u" ++ Quoted.hex 4 n

/-- One code point of a text: quotes, backslashes and controls have escapes; beyond printable ASCII
the charset decides, and a character above U+FFFF is escaped as its surrogate pair. -/
def escape (charset : Charset) (c : CodePoint) : Text :=
  let n := c.toNat
  if n = '"'.toNat then "\\\""
  else if n = '\\'.toNat then "\\\\"
  else if n = '\n'.toNat then "\\n"
  else if n = '\r'.toNat then "\\r"
  else if n = '\t'.toNat then "\\t"
  else if n = 0x08 then "\\b"
  else if n = 0x0C then "\\f"
  else if n < 0x20 then unicodeEscape n
  else if n < 0x7F ∨ charset = .unicode then [c]
  else if n < 0x10000 then unicodeEscape n
  else
    unicodeEscape (0xD800 + (n - 0x10000) / 0x400) ++ unicodeEscape (0xDC00 + (n - 0x10000) % 0x400)

/-- Puts a text behind `done`. -/
def push (done : Text) (t : Text) : Text :=
  t.reverseAux done

/-- A text between quotes. -/
def writeText (charset : Charset) (done : Text) (t : Text) : Text :=
  .scalar '"' :: t.foldl (fun done c => push done (escape charset c)) (.scalar '"' :: done)

mutual

/-- A value. -/
def write (charset : Charset) (done : Text) : Json → Text
  | .null => push done "null"
  | .bool true => push done "true"
  | .bool false => push done "false"
  | .int n => push done (Text.ofInt n)
  | .float x => push done (DecimalLayout.json.text x)
  | .str t => writeText charset done t
  | .arr items => .scalar ']' :: writeItems charset (.scalar '[' :: done) items
  | .obj fields => .scalar '\x7d' :: writeFields charset (.scalar '\x7b' :: done) fields

/-- The items of an array, with commas between them. -/
def writeItems (charset : Charset) (done : Text) : List Json → Text
  | [] => done
  | [item] => write charset done item
  | item :: next :: rest =>
    writeItems charset (.scalar ',' :: write charset done item) (next :: rest)

/-- The fields of an object, with commas between them. -/
def writeFields (charset : Charset) (done : Text) : List (Text × Json) → Text
  | [] => done
  | [(key, value)] => write charset (.scalar ':' :: writeText charset done key) value
  | (key, value) :: next :: rest =>
    writeFields charset
      (.scalar ',' :: write charset (.scalar ':' :: writeText charset done key) value)
      (next :: rest)

end

/-- The document of a value. -/
def render (charset : Charset) (value : Json) : Text :=
  (write charset [] value).reverse

end DwmIpc.Json
