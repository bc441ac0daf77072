import DwmIpc.Failure

/-!
# Frames

A message travels as a frame: the magic, the size of the payload as a 32-bit
number, the type as one byte, then the payload. `encode` and `decode` convert
whole frames held in memory; what is left after a frame is ignored.
-/

namespace DwmIpc

/-- A message: a type, known or not, and a payload. -/
structure Message where
  type : UInt8
  payload : Bytes
  deriving DecidableEq, Inhabited

/-- The known message types. -/
inductive MessageType where
  | runCommand
  | getMonitors
  | getTags
  | getLayouts
  | getClient
  | subscribe
  | event
  deriving DecidableEq

namespace MessageType

/-- The known types in the order of their bytes. -/
def all : List MessageType :=
  [runCommand, getMonitors, getTags, getLayouts, getClient, subscribe, event]

/-- The byte of a type. -/
def toByte : MessageType → UInt8
  | runCommand => 0
  | getMonitors => 1
  | getTags => 2
  | getLayouts => 3
  | getClient => 4
  | subscribe => 5
  | event => 6

/-- The type of a byte. -/
def ofByte? (byte : UInt8) : Option MessageType :=
  all.find? fun type => type.toByte == byte

/-- The record that a type leaves when it is looked up: unknown ones are noted. -/
def records (type : Int) : List LogRecord :=
  if all.any fun known => (known.toByte.toNat : Int) == type then []
  else [⟨.debug, .protocol, Text.ofString "unknown message type " ++ Text.ofInt type⟩]

end MessageType

/-- What a header says. -/
structure Header where
  type : UInt8
  size : Nat
  deriving DecidableEq

/-- The greatest size of a payload. -/
def maxPayloadSize : Nat := 0xFFFFFFFF

namespace Header

/-- The twelve bytes of a header. -/
def bytes (header : Header) : Bytes :=
  magic ++ Bytes.littleEndian32 header.size ++ [header.type]

/-- The header bytes for any two integers, if they are in range. -/
def encode (type size : Int) : Except Failure Bytes :=
  if ¬(0 ≤ type ∧ type ≤ 0xFF) then .error (.typeOutOfRange type)
  else if (maxPayloadSize : Int) < size then .error (.payloadTooLarge size)
  else if size < 0 then .error .negativeSize
  else .ok (bytes ⟨UInt8.ofNat type.toNat, size.toNat⟩)

/-- Reads the header at the front of `data`. -/
def decode (data : Bytes) : Except Failure Header :=
  if data.length < headerSize then .error (.headerTooShort data.length)
  else if data.take magic.length ≠ magic then .error (.badMagic (data.take magic.length))
  else
    .ok ⟨(data.drop 11).headD 0, Bytes.fromLittleEndian ((data.drop magic.length).take 4)⟩

/-- The records that reading a header leaves. -/
def records : Except Failure Header → List LogRecord
  | .ok header => MessageType.records header.type.toNat
  | .error (.badMagic got) =>
    [⟨.warning, .protocol,
      Text.ofString "invalid magic string " ++ Quoted.bytes got ++ Text.ofString ", expected " ++
        Quoted.bytes magic⟩]
  | .error _ => []

end Header

namespace Message

/-- The frame of a message of any type, if the type is a byte and the payload not too long. -/
def encode (type : Int) (payload : Bytes) : Except Failure Bytes :=
  (Header.encode type payload.length).map (· ++ payload)

/-- Reads the frame at the front of `data`. -/
def decode (data : Bytes) : Except Failure Message :=
  match Header.decode data with
  | .error failure => .error failure
  | .ok header =>
    let payload := (data.drop headerSize).take header.size
    if payload.length < header.size then .error (.payloadTooShort header.size payload.length)
    else .ok ⟨header.type, payload⟩

/-- The payload as text. -/
def text (message : Message) : Text :=
  Utf8.decodeReplacing message.payload

end Message

end DwmIpc
