import DwmIpc.Json.Reader
import DwmIpc.Text.Utf8

/-!
# JSON documents as bytes

A document comes in UTF-8, UTF-16 or UTF-32. A byte order mark tells which;
without one the places of the zero bytes among the first four do, since a
document starts with two ASCII characters. In each encoding surrogates are
accepted.
-/

namespace DwmIpc.Json

/-- The encoding of a document. -/
inductive Encoding where
  | utf8
  | utf16 (bigEndian : Bool)
  | utf32 (bigEndian : Bool)
  deriving DecidableEq

/-- The encoding that the zero bytes among the first bytes show. -/
def encodingByZeros : Bytes → Encoding
  | a :: b :: c :: d :: _ =>
    if a = 0 then if b = 0 then .utf32 true else .utf16 true
    else if b = 0 then if c = 0 ∧ d = 0 then .utf32 false else .utf16 false
    else .utf8
  | [a, b] => if a = 0 then .utf16 true else if b = 0 then .utf16 false else .utf8
  | _ => .utf8

/-- The encoding of a document, and its bytes without a byte order mark. -/
def detectEncoding : Bytes → Encoding × Bytes
  | 0x00 :: 0x00 :: 0xFE :: 0xFF :: rest => (.utf32 true, rest)
  | 0xFF :: 0xFE :: 0x00 :: 0x00 :: rest => (.utf32 false, rest)
  | 0xFE :: 0xFF :: rest => (.utf16 true, rest)
  | 0xFF :: 0xFE :: rest => (.utf16 false, rest)
  | 0xEF :: 0xBB :: 0xBF :: rest => (.utf8, rest)
  | bytes => (encodingByZeros bytes, bytes)

/-- The number of two bytes. -/
def unit16 (bigEndian : Bool) (a b : UInt8) : Nat :=
  if bigEndian then a.toNat * 0x100 + b.toNat else b.toNat * 0x100 + a.toNat

/-- The 16-bit units of a byte string of even length. -/
def units16 (bigEndian : Bool) (done : List Nat) : Bytes → Option (List Nat)
  | [] => some done.reverse
  | [_] => none
  | a :: b :: rest => units16 bigEndian (unit16 bigEndian a b :: done) rest

/-- The code points of 16-bit units; a surrogate without its partner stays one. -/
def joinUnits (done : Text) : List Nat → Text
  | [] => done.reverse
  | [unit] => (.ofNat unit :: done).reverse
  | unit :: next :: rest =>
    if (CodePoint.ofNat unit).isHighSurrogate && (CodePoint.ofNat next).isLowSurrogate then
      joinUnits (joinSurrogates unit next :: done) rest
    else joinUnits (.ofNat unit :: done) (next :: rest)

/-- Decodes UTF-32. -/
def decodeUtf32 (bigEndian : Bool) (done : Text) : Bytes → Option Text
  | [] => some done.reverse
  | a :: b :: c :: d :: rest =>
    let n :=
      if bigEndian then unit16 true a b * 0x10000 + unit16 true c d
      else unit16 false c d * 0x10000 + unit16 false a b
    if n < 0x110000 then decodeUtf32 bigEndian (.ofNat n :: done) rest else none
  | _ => none

/-- The text of a document. -/
def decode? (bytes : Bytes) : Option Text :=
  match detectEncoding bytes with
  | (.utf8, rest) => Utf8.decodeSurrogates? rest
  | (.utf16 bigEndian, rest) => (units16 bigEndian [] rest).map (joinUnits [])
  | (.utf32 bigEndian, rest) => decodeUtf32 bigEndian [] rest

/-- The limits for documents that come from outside. -/
def documentLimits : Limits := ⟨some 4300, 990⟩

/-- Reads a document from its bytes. -/
def readBytes (bytes : Bytes) : Except ReadError Json :=
  match decode? bytes with
  | none => .error .undecodable
  | some t => read documentLimits t

end DwmIpc.Json
