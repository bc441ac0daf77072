import DwmIpc.Bytes
import DwmIpc.Text.Basic

/-!
# Bytes in base 64

Every character of the alphabet stands for six bits, so four of them hold three
bytes. Other characters of ASCII are passed over. The last group may be two or
three characters and equals signs up to four; what follows them is not read.
-/

namespace DwmIpc.Base64

/-- The six bits that a character stands for. -/
def sextet? (c : Char) : Option Nat :=
  if c.isUpper then some (c.toNat - 'A'.toNat)
  else if c.isLower then some (c.toNat - 'a'.toNat + 26)
  else if c.isDigit then some (c.toNat - '0'.toNat + 52)
  else if c = '+' then some 62
  else if c = '/' then some 63
  else none

/-- Decodes the rest of a text. `place` characters of the group were read, and of their bits `bits`
have not become part of a byte; `pads` equals signs came since; `done` holds the bytes backwards. -/
def decodeFrom (done : Bytes) (place bits pads : Nat) : List Char → Option Bytes
  | [] => if place = 0 then some done.reverse else none
  | c :: rest =>
    if c = '=' then
      if place < 2 then decodeFrom done place bits pads rest
      else if place + pads < 3 then decodeFrom done place bits (pads + 1) rest
      else some done.reverse
    else
      match sextet? c with
      | none => decodeFrom done place bits pads rest
      | some value =>
        if place = 0 then decodeFrom done 1 value 0 rest
        else
          let bits := bits * 64 + value
          let unit := Nat.pow 4 (3 - place)
          decodeFrom (UInt8.ofNat (bits / unit) :: done) ((place + 1) % 4) (bits % unit) 0 rest

/-- The bytes that a text spells; it must be ASCII throughout and end with a whole group. -/
def decode? (t : Text) : Option Bytes :=
  if t.all fun c => c.toNat < 0x80 then
    decodeFrom [] 0 0 0 (t.map fun c => Char.ofNat c.toNat)
  else none

end DwmIpc.Base64
