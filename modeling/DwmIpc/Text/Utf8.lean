import DwmIpc.Bytes
import DwmIpc.Text.Basic

/-!
# UTF-8, and four ways to treat bytes that are not UTF-8

`sequence` recognises one well-formed UTF-8 sequence by the ranges of its first
and second byte. The decoders differ only in what they do where it fails:

* `decode?` refuses the whole input;
* `decodeSurrogates?` still accepts the three-byte form of a surrogate;
* `decodeReplacing` puts U+FFFD for every maximal part of a broken sequence;
* `decodeEscaping` lets every stray byte stand for itself.

`encodeEscaping` is the way back from the last one.
-/

namespace DwmIpc.Utf8

/-- The six payload bits of a continuation byte. -/
def continuation? (byte : UInt8) : Option Nat :=
  if 0x80 ≤ byte.toNat ∧ byte.toNat < 0xC0 then some (byte.toNat - 0x80) else none

/-- What a lead byte announces: how many continuation bytes follow, its own payload bits,
and the range of the first continuation byte, which excludes overlong forms, surrogates and
numbers above `0x10FFFF`. -/
structure Lead where
  following : Nat
  bits : Nat
  low : Nat
  high : Nat

/-- The lead bytes of sequences of two and more bytes. -/
def lead? (byte : UInt8) : Option Lead :=
  let b := byte.toNat
  if b < 0xC2 then none
  else if b < 0xE0 then some ⟨1, b - 0xC0, 0x80, 0xBF⟩
  else if b = 0xE0 then some ⟨2, 0, 0xA0, 0xBF⟩
  else if b = 0xED then some ⟨2, 0xD, 0x80, 0x9F⟩
  else if b < 0xF0 then some ⟨2, b - 0xE0, 0x80, 0xBF⟩
  else if b = 0xF0 then some ⟨3, 0, 0x90, 0xBF⟩
  else if b < 0xF4 then some ⟨3, b - 0xF0, 0x80, 0xBF⟩
  else if b = 0xF4 then some ⟨3, 4, 0x80, 0x8F⟩
  else none

/-- Collects up to `count` continuation bytes into `bits`; tells how many were there. -/
def continuations : (count : Nat) → (bits : Nat) → Bytes → Nat × Nat
  | 0, bits, _ => (0, bits)
  | _ + 1, bits, [] => (0, bits)
  | count + 1, bits, byte :: rest =>
    match continuation? byte with
    | none => (0, bits)
    | some low =>
      let (found, all) := continuations count (bits * 0x40 + low) rest
      (found + 1, all)

/-- The outcome of reading one sequence: a character made of the first byte and
`following` more, or a broken part of `following + 1` bytes. -/
inductive Sequence where
  | char (c : Char) (following : Nat)
  | broken (following : Nat)

/-- Reads the sequence that `byte` starts in front of `rest`. -/
def sequence (byte : UInt8) (rest : Bytes) : Sequence :=
  if byte.toNat < 0x80 then .char (Char.ofNat byte.toNat) 0
  else
    match lead? byte, rest with
    | none, _ => .broken 0
    | some _, [] => .broken 0
    | some lead, second :: _ =>
      if lead.low ≤ second.toNat ∧ second.toNat ≤ lead.high then
        let (found, bits) := continuations lead.following lead.bits rest
        if found = lead.following then .char (Char.ofNat bits) found else .broken found
      else .broken 0

/-- Decodes byte after byte: `step` looks at the front and names the next code point and how many
bytes after the first belong to it, or refuses the input. The next `pending` bytes belong to the
code point before them; `done` holds the code points backwards. -/
def decodeBy (step : UInt8 → Bytes → Option (CodePoint × Nat)) :
    (pending : Nat) → (done : Text) → Bytes → Option Text
  | _, done, [] => some done.reverse
  | pending + 1, done, _ :: rest => decodeBy step pending done rest
  | 0, done, byte :: rest =>
    match step byte rest with
    | none => none
    | some (c, following) => decodeBy step following (c :: done) rest

/-- One step of strict decoding. -/
def strictStep (byte : UInt8) (rest : Bytes) : Option (CodePoint × Nat) :=
  match sequence byte rest with
  | .char c following => some (.scalar c, following)
  | .broken _ => none

/-- The surrogate that three bytes spell in the manner of UTF-8. -/
def surrogate? (byte : UInt8) (rest : Bytes) : Option CodePoint :=
  match byte, rest with
  | 0xED, second :: third :: _ =>
    if 0xA0 ≤ second.toNat ∧ second.toNat < 0xC0 then
      (continuation? third).map fun low =>
        CodePoint.ofNat (0xD000 + (second.toNat - 0x80) * 0x40 + low)
    else none
  | _, _ => none

/-- One step of decoding that also accepts surrogates. -/
def surrogateStep (byte : UInt8) (rest : Bytes) : Option (CodePoint × Nat) :=
  match sequence byte rest with
  | .char c following => some (.scalar c, following)
  | .broken _ => (surrogate? byte rest).map (·, 2)

/-- One step of decoding that replaces a broken part. -/
def replacingStep (byte : UInt8) (rest : Bytes) : CodePoint × Nat :=
  match sequence byte rest with
  | .char c following => (.scalar c, following)
  | .broken following => (.scalar '\uFFFD', following)

/-- One step of decoding that lets a stray byte stand for itself. -/
def escapingStep (byte : UInt8) (rest : Bytes) : CodePoint × Nat :=
  match sequence byte rest with
  | .char c following => (.scalar c, following)
  | .broken _ => (.undecoded byte, 0)

/-- The text that the bytes spell, if they are UTF-8 throughout. -/
def decode? (bytes : Bytes) : Option Text :=
  decodeBy strictStep 0 [] bytes

/-- As `decode?`, but surrogates may be spelled too. -/
def decodeSurrogates? (bytes : Bytes) : Option Text :=
  decodeBy surrogateStep 0 [] bytes

/-- Decodes any bytes, U+FFFD standing for each maximal broken part. -/
def decodeReplacing (bytes : Bytes) : Text :=
  (decodeBy (fun byte rest => some (replacingStep byte rest)) 0 [] bytes).getD []

/-- Decodes any bytes, a stray byte standing for itself. -/
def decodeEscaping (bytes : Bytes) : Text :=
  (decodeBy (fun byte rest => some (escapingStep byte rest)) 0 [] bytes).getD []

/-- The UTF-8 form of a number below `0x110000`. -/
def encodeNat (n : Nat) : Bytes :=
  if n < 0x80 then [UInt8.ofNat n]
  else if n < 0x800 then [UInt8.ofNat (0xC0 + n / 0x40), UInt8.ofNat (0x80 + n % 0x40)]
  else if n < 0x10000 then
    [UInt8.ofNat (0xE0 + n / 0x1000), UInt8.ofNat (0x80 + n / 0x40 % 0x40),
      UInt8.ofNat (0x80 + n % 0x40)]
  else
    [UInt8.ofNat (0xF0 + n / 0x40000), UInt8.ofNat (0x80 + n / 0x1000 % 0x40),
      UInt8.ofNat (0x80 + n / 0x40 % 0x40), UInt8.ofNat (0x80 + n % 0x40)]

/-- The bytes of a character. -/
def encodeChar (c : Char) : Bytes :=
  encodeNat c.toNat

/-- The bytes of a code point, if it is a character or stands for a byte. -/
def encodeCodePoint? : CodePoint → Option Bytes
  | .scalar c => some (encodeChar c)
  | c => c.undecoded?.map ([·])

/-- Where a text cannot be encoded: a run of surrogates, of which `first` is the first that stands
for no byte. -/
structure Unencodable where
  first : CodePoint
  start : Nat
  length : Nat
  deriving DecidableEq

/-- The surrogates at the front of a text. -/
def surrogateRun : Text → Nat
  | .surrogate _ :: rest => surrogateRun rest + 1
  | _ => 0

/-- Encodes a text in which stray bytes stand for themselves; `position` code points precede it,
and `done` holds their bytes backwards. -/
def encodeFrom (done : Bytes) (position : Nat) : Text → Except Unencodable Bytes
  | [] => .ok done.reverse
  | c :: rest =>
    match encodeCodePoint? c with
    | some bytes => encodeFrom (bytes.reverse ++ done) (position + 1) rest
    | none => .error ⟨c, position, surrogateRun (c :: rest)⟩

/-- The bytes of a text in which stray bytes stand for themselves. -/
def encodeEscaping (text : Text) : Except Unencodable Bytes :=
  encodeFrom [] 0 text

end DwmIpc.Utf8
