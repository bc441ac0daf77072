/-!
# Byte strings and little-endian words

What travels on the socket is a list of bytes. The wire format holds one number,
a 32-bit size with its least significant byte first; `littleEndian32` and
`fromLittleEndian` convert it, as arithmetic on `Nat` so that bounds are plain
inequalities.
-/

namespace DwmIpc

/-- What a socket, a file or a command line argument holds. -/
abbrev Bytes := List UInt8

namespace Bytes

/-- The four bytes of `n` modulo `2 ^ 32`, least significant first. -/
def littleEndian32 (n : Nat) : Bytes :=
  [UInt8.ofNat n, UInt8.ofNat (n / 0x100), UInt8.ofNat (n / 0x10000), UInt8.ofNat (n / 0x1000000)]

/-- The number whose digits to the base 256 are `bytes`, least significant first. -/
def fromLittleEndian (bytes : Bytes) : Nat :=
  bytes.foldr (fun byte high => byte.toNat + 0x100 * high) 0

theorem length_littleEndian32 (n : Nat) : (littleEndian32 n).length = 4 := rfl

/-- A number below `2 ^ 32` is read back from its four bytes. -/
theorem fromLittleEndian_littleEndian32 {n : Nat} (h : n < 0x100000000) :
    fromLittleEndian (littleEndian32 n) = n := by
  simp only [fromLittleEndian, littleEndian32, List.foldr, UInt8.toNat_ofNat']
  omega

/-- The bytes of an ASCII literal. -/
def ofAscii (s : String) : Bytes :=
  s.toList.map fun c => UInt8.ofNat c.toNat

end Bytes

end DwmIpc
