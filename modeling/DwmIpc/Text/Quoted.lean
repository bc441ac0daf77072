import DwmIpc.Bytes
import DwmIpc.Text.Basic
import DwmIpc.Text.Printable

/-!
# Quoted forms of byte strings and texts

Messages show bytes and texts between quotes, with escapes for what cannot be
seen. The quote is `'`, or `"` when the content holds `'` and no `"`. The
backslash, the quote in use and three control characters have an escape of two
characters; anything else that is not shown as it is becomes a number in
hexadecimal.
-/

namespace DwmIpc.Quoted

/-- `width` hexadecimal digits of `n`, lower case, the most significant first. -/
def hex : (width n : Nat) → Text
  | 0, _ => []
  | width + 1, n => hex width (n / 16) ++ [.scalar (Nat.digitChar (n % 16))]

/-- The quote for a content of these code points. -/
def quoteFor (content : List Nat) : Char :=
  if content.contains '\''.toNat && !content.contains '"'.toNat then '"' else '\''

/-- The escape of two characters, for those that have one. -/
def shortEscape? (quote : Char) (n : Nat) : Option Text :=
  if n = quote.toNat then some [.scalar '\\', .scalar quote]
  else if n = '\\'.toNat then some "\\\\"
  else if n = '\n'.toNat then some "\\n"
  else if n = '\r'.toNat then some "\\r"
  else if n = '\t'.toNat then some "\\t"
  else none

/-- A byte between quotes. -/
def byte (quote : Char) (b : UInt8) : Text :=
  match shortEscape? quote b.toNat with
  | some escape => escape
  | none =>
    if 0x20 ≤ b.toNat ∧ b.toNat < 0x7F then [.scalar (Char.ofNat b.toNat)]
    else Text.ofString "\\x" ++ hex 2 b.toNat

/-- A code point between quotes. -/
def codePoint (quote : Char) (c : CodePoint) : Text :=
  match shortEscape? quote c.toNat with
  | some escape => escape
  | none =>
    if isPrintable c.toNat then [c]
    else if c.toNat < 0x100 then Text.ofString "\\x" ++ hex 2 c.toNat
    else if c.toNat < 0x10000 then Text.ofString "\\u" ++ hex 4 c.toNat
    else Text.ofString "\\U" ++ hex 8 c.toNat

/-- A byte string: `b`, then its bytes between quotes. -/
def bytes (content : Bytes) : Text :=
  let quote := quoteFor (content.map (·.toNat))
  .scalar 'b' :: .scalar quote :: content.flatMap (byte quote) ++ [.scalar quote]

/-- A text between quotes. -/
def text (content : Text) : Text :=
  let quote := quoteFor (content.map (·.toNat))
  .scalar quote :: content.flatMap (codePoint quote) ++ [.scalar quote]

end DwmIpc.Quoted
