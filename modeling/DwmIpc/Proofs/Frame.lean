import DwmIpc.Frame

/-!
# The frame of a message

`Message.frame` is what a message looks like on the wire: encoding a message that
fits gives its frame (`encode_eq_frame`). A header is read from its twelve bytes,
whatever follows them (`decodeHeader_frame_append`) and however much of the
payload is missing (`decodeHeader_cut`).
-/

namespace DwmIpc

theorem length_magic : magic.length = 7 := by decide

namespace Header

theorem length_bytes (header : Header) : header.bytes.length = headerSize := by
  rw [bytes, List.length_append, List.length_append, length_magic, Bytes.length_littleEndian32]
  rfl

/-- A header is read from its bytes, whatever follows. -/
theorem decode_bytes_append {header : Header} (h : header.size ≤ maxPayloadSize) (rest : Bytes) :
    decode (header.bytes ++ rest) = .ok header := by
  have hlong : ¬(header.bytes ++ rest).length < headerSize := by
    rw [List.length_append, length_bytes]; omega
  have hsplit : header.bytes ++ rest
      = magic ++ (Bytes.littleEndian32 header.size ++ header.type :: rest) := by
    simp only [bytes, List.append_assoc, List.singleton_append]
  have hmagic : (header.bytes ++ rest).take magic.length = magic := by
    rw [hsplit, List.take_left]
  have hsize : ((header.bytes ++ rest).drop magic.length).take 4 =
      Bytes.littleEndian32 header.size := by
    rw [hsplit, List.drop_left, List.take_left' (Bytes.length_littleEndian32 _)]
  have htype : (header.bytes ++ rest).drop 11 = header.type :: rest := by
    rw [hsplit, ← List.append_assoc]
    exact List.drop_left' (by rw [List.length_append, length_magic, Bytes.length_littleEndian32])
  rw [decode, if_neg hlong, if_neg (by rw [hmagic]; exact fun hne => hne rfl), hsize, htype,
    Bytes.fromLittleEndian_littleEndian32 (Nat.lt_succ_of_le h)]
  rfl

/-- A header is read from the first twelve bytes alone. -/
theorem decode_take {data : Bytes} (h : headerSize ≤ data.length) :
    decode (data.take headerSize) = decode data := by
  have hlength : (data.take headerSize).length = headerSize := by
    rw [List.length_take]; exact Nat.min_eq_left h
  have hmagic : (data.take headerSize).take magic.length = data.take magic.length := by
    rw [List.take_take, length_magic]; rfl
  have hsize : ((data.take headerSize).drop magic.length).take 4 =
      (data.drop magic.length).take 4 := by
    rw [List.drop_take, List.take_take, length_magic]; rfl
  have htype : ((data.take headerSize).drop 11).headD 0 = (data.drop 11).headD 0 := by
    rw [List.drop_take]
    cases data.drop 11 <;> rfl
  rw [decode, decode, hlength, hmagic, hsize, htype, if_neg (Nat.lt_irrefl _),
    if_neg (Nat.not_lt.2 h)]

/-- A header is encoded as its bytes. -/
theorem encode_eq {type : UInt8} {size : Nat} (h : size ≤ maxPayloadSize) :
    encode type.toNat size = .ok (bytes ⟨type, size⟩) := by
  have htype := type.toNat_lt
  have hfits : ¬(maxPayloadSize : Int) < size := by omega
  rw [encode, if_neg (by omega), if_neg hfits, if_neg (by omega)]
  simp

end Header

namespace Message

/-- The bytes of a message on the wire. -/
def frame (m : Message) : Bytes :=
  Header.bytes ⟨m.type, m.payload.length⟩ ++ m.payload

/-- Is the payload not longer than a header can say? -/
def Fits (m : Message) : Prop :=
  m.payload.length ≤ maxPayloadSize

instance (m : Message) : Decidable m.Fits :=
  inferInstanceAs (Decidable (m.payload.length ≤ maxPayloadSize))

theorem length_frame (m : Message) : m.frame.length = headerSize + m.payload.length := by
  rw [frame, List.length_append, Header.length_bytes]

/-- A message is encoded as its frame. -/
theorem encode_eq_frame {m : Message} (h : m.Fits) :
    encode m.type.toNat m.payload = .ok m.frame := by
  rw [encode, Header.encode_eq h]
  rfl

/-- The header of a frame is read off, whatever follows the frame. -/
theorem decodeHeader_frame_append {m : Message} (h : m.Fits) (rest : Bytes) :
    Header.decode (m.frame ++ rest) = .ok ⟨m.type, m.payload.length⟩ := by
  rw [frame, List.append_assoc]
  exact @Header.decode_bytes_append ⟨m.type, m.payload.length⟩ h _

/-- A frame that is cut behind its header still says what the header says. -/
theorem decodeHeader_cut {m : Message} (h : m.Fits) {cut : Bytes} (hcut : cut <+: m.frame)
    (behind : headerSize ≤ cut.length) : Header.decode cut = .ok ⟨m.type, m.payload.length⟩ := by
  obtain ⟨rest, hrest⟩ := hcut
  have hheader : cut.take headerSize = (m.frame ++ []).take headerSize := by
    rw [List.append_nil, ← hrest, List.take_append_of_le_length behind]
  rw [← Header.decode_take behind, hheader,
    Header.decode_take (by rw [List.append_nil, length_frame]; exact Nat.le_add_right ..)]
  exact decodeHeader_frame_append h []

end Message

end DwmIpc
