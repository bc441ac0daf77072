import DwmIpc.Proofs.Frame

/-!
# Encoding and decoding are inverse

Decoding goes by cases: the data are too short for a header, do not begin with
the magic, end in front of the end of the payload that the header states, or hold
a frame (`Message.decode_outcomes`). The cases exclude one another, so each failure
is one of them.

What was decoded encodes to the very bytes that it was read from
(`Message.encode_of_decode`): the four bytes of a size make a number below
`2 ^ 32`, and that number has no other four bytes
(`Bytes.littleEndian32_fromLittleEndian`). With the converse,
`Message.decode_encode_append`, this is the main result,
`Message.encode_and_decode_are_inverse`.
-/

namespace DwmIpc

/-! ## Sizes -/

namespace Bytes

/-- Four bytes make a number below `2 ^ 32`, and it is these four bytes that the number has. -/
theorem littleEndian32_fromLittleEndian {bytes : Bytes} (h : bytes.length = 4) :
    littleEndian32 (fromLittleEndian bytes) = bytes ∧ fromLittleEndian bytes < 0x100000000 := by
  match bytes, h with
  | [a, b, c, d], _ =>
    have ha := a.toNat_lt
    have hb := b.toNat_lt
    have hc := c.toNat_lt
    have hd := d.toNat_lt
    have hvalue : fromLittleEndian [a, b, c, d] =
        a.toNat + 0x100 * b.toNat + 0x10000 * c.toNat + 0x1000000 * d.toNat := by
      simp only [fromLittleEndian, List.foldr]
      omega
    rw [hvalue]
    refine ⟨?_, by omega⟩
    -- byte by byte, as numbers
    simp only [littleEndian32, List.cons.injEq, and_true, ← UInt8.toNat_inj, UInt8.toNat_ofNat']
    omega

/-- The number of the first four bytes, where missing bytes count as zeros. -/
theorem fromLittleEndian_take (bytes : Bytes) :
    fromLittleEndian (bytes.take 4) =
      (bytes.getD 0 0).toNat + 0x100 * (bytes.getD 1 0).toNat + 0x10000 * (bytes.getD 2 0).toNat +
        0x1000000 * (bytes.getD 3 0).toNat := by
  match bytes with
  | [] => rfl
  | [_] | [_, _] => simp [fromLittleEndian]
  | [_, _, _] | _ :: _ :: _ :: _ :: _ => simp [fromLittleEndian]; omega

end Bytes

/-! ## Headers -/

namespace Header

/-- The size that is stated in the four bytes behind the magic, the least significant first. -/
def statedSize (data : Bytes) : Nat :=
  (data.getD 7 0).toNat + 0x100 * (data.getD 8 0).toNat + 0x10000 * (data.getD 9 0).toNat +
    0x1000000 * (data.getD 10 0).toNat

/-- The size is read from the four bytes behind the magic. -/
theorem fromLittleEndian_eq_statedSize (data : Bytes) :
    Bytes.fromLittleEndian ((data.drop 7).take 4) = statedSize data := by
  simp only [Bytes.fromLittleEndian_take, statedSize, List.getD_eq_getElem?_getD,
    List.getElem?_drop]

variable {data : Bytes}

theorem decode_short (short : data.length < headerSize) :
    decode data = .error (.headerTooShort data.length) :=
  if_pos short

/-- Other bytes in front are no header. -/
theorem decode_badMagic (long : headerSize ≤ data.length) (hne : data.take 7 ≠ magic) :
    decode data = .error (.badMagic (data.take 7)) := by
  rw [decode, length_magic, if_neg (Nat.not_lt.2 long), if_pos hne]

/-- With the magic in front, the size and the type are read off. -/
theorem decode_magic (long : headerSize ≤ data.length) (hmagic : data.take 7 = magic) :
    decode data = .ok ⟨data.getD 11 0, statedSize data⟩ := by
  rw [decode, length_magic, if_neg (Nat.not_lt.2 long), if_neg (fun hne => hne hmagic),
    fromLittleEndian_eq_statedSize, List.headD_eq_head?_getD, List.head?_drop,
    List.getD_eq_getElem?_getD]

/-- A header that was read is written as the twelve bytes that it was read from. -/
theorem bytes_statedSize (long : headerSize ≤ data.length) (hmagic : data.take 7 = magic) :
    bytes ⟨data.getD 11 0, statedSize data⟩ = data.take headerSize ∧
      statedSize data ≤ maxPayloadSize := by
  have hinside : 11 < data.length := long
  have hlength : ((data.drop 7).take 4).length = 4 := by
    rw [List.length_take, List.length_drop]; omega
  obtain ⟨hsize, hbound⟩ := Bytes.littleEndian32_fromLittleEndian hlength
  rw [fromLittleEndian_eq_statedSize] at hsize hbound
  have htype : [data.getD 11 0] = (data.drop 11).take 1 := by
    rw [List.drop_eq_getElem_cons hinside, List.getD_eq_getElem?_getD,
      List.getElem?_eq_getElem hinside]
    rfl
  refine ⟨?_, Nat.le_of_lt_succ hbound⟩
  calc bytes ⟨data.getD 11 0, statedSize data⟩
      = data.take 7 ++ (data.drop 7).take 4 ++ (data.drop 11).take 1 := by
        rw [bytes, hsize, htype, hmagic]
    _ = data.take headerSize := by rw [← List.take_add, ← List.take_add]; rfl

/-- A header is encoded just if its type is a byte and its size is one of 32 bits. -/
theorem encode_outcomes (type : Int) (size : Nat) :
    (¬(0 ≤ type ∧ type ≤ 255) ∧ encode type size = .error (.typeOutOfRange type)) ∨
      ((0 ≤ type ∧ type ≤ 255) ∧ maxPayloadSize < size ∧
        encode type size = .error (.payloadTooLarge size)) ∨
      ∃ byte : UInt8, type = byte.toNat ∧ size ≤ maxPayloadSize ∧
        encode type size = .ok (bytes ⟨byte, size⟩) := by
  by_cases hrange : 0 ≤ type ∧ type ≤ 255
  · rcases Nat.lt_or_ge maxPayloadSize size with hlong | hfits
    · refine .inr (.inl ⟨hrange, hlong, ?_⟩)
      rw [encode, if_neg (fun hout => hout hrange), if_pos (Int.ofNat_lt.2 hlong)]
    · have hbyte : type = (UInt8.ofNat type.toNat).toNat := by
        rw [UInt8.toNat_ofNat']; omega
      refine .inr (.inr ⟨UInt8.ofNat type.toNat, hbyte, hfits, ?_⟩)
      rw [← encode_eq hfits, ← hbyte]
  · exact .inl ⟨hrange, by rw [encode, if_pos hrange]⟩

end Header

/-! ## Messages -/

namespace Message

open Header

/-- A message is encoded as its frame just if its type is a byte and its payload not too long. -/
theorem encode_outcomes (type : Int) (payload : Bytes) :
    (¬(0 ≤ type ∧ type ≤ 255) ∧ encode type payload = .error (.typeOutOfRange type)) ∨
      ((0 ≤ type ∧ type ≤ 255) ∧ maxPayloadSize < payload.length ∧
        encode type payload = .error (.payloadTooLarge payload.length)) ∨
      ∃ m : Message, type = m.type.toNat ∧ payload = m.payload ∧ m.Fits ∧
        encode type payload = .ok m.frame := by
  rcases Header.encode_outcomes type payload.length with
    ⟨hrange, hheader⟩ | ⟨hrange, hlong, hheader⟩ | ⟨byte, rfl, hfits, hheader⟩
  · exact .inl ⟨hrange, by rw [encode, hheader]; rfl⟩
  · exact .inr (.inl ⟨hrange, hlong, by rw [encode, hheader]; rfl⟩)
  · exact .inr (.inr ⟨⟨byte, payload⟩, rfl, rfl, hfits, by rw [encode, hheader]; rfl⟩)

/-- Behind a header it matters only how much of the payload is there. -/
theorem decode_of_header {data : Bytes} {header : Header}
    (hheader : Header.decode data = .ok header) :
    decode data =
      if data.length - headerSize < header.size then
        .error (.payloadTooShort header.size (data.length - headerSize))
      else .ok ⟨header.type, (data.drop headerSize).take header.size⟩ := by
  have hlength : ((data.drop headerSize).take header.size).length =
      min header.size (data.length - headerSize) := by
    rw [List.length_take, List.length_drop]
  rw [decode, hheader]
  simp only [hlength]
  rcases Nat.lt_or_ge (data.length - headerSize) header.size with hcut | hwhole
  · rw [Nat.min_eq_right (Nat.le_of_lt hcut)]
  · rw [Nat.min_eq_left hwhole, if_neg (Nat.lt_irrefl _), if_neg (Nat.not_lt.2 hwhole)]

/-- Data are too short for a header, or begin with something else, or the payload is cut off, or
there is a whole frame at the front. -/
theorem decode_outcomes (data : Bytes) :
    (data.length < headerSize ∧ decode data = .error (.headerTooShort data.length)) ∨
      (headerSize ≤ data.length ∧ data.take 7 ≠ magic ∧
        decode data = .error (.badMagic (data.take 7))) ∨
      (headerSize ≤ data.length ∧ data.take 7 = magic ∧
        data.length < headerSize + statedSize data ∧
        decode data = .error (.payloadTooShort (statedSize data) (data.length - headerSize))) ∨
      (data.take 7 = magic ∧ headerSize + statedSize data ≤ data.length ∧
        decode data = .ok ⟨data.getD 11 0, (data.drop headerSize).take (statedSize data)⟩) := by
  rcases Nat.lt_or_ge data.length headerSize with short | long
  · exact .inl ⟨short, by rw [decode, decode_short short]⟩
  · by_cases hmagic : data.take 7 = magic
    · have hdecode := decode_of_header (decode_magic long hmagic)
      rcases Nat.lt_or_ge data.length (headerSize + statedSize data) with hcut | hwhole
      · rw [if_pos (by show _ < statedSize data; omega)] at hdecode
        exact .inr (.inr (.inl ⟨long, hmagic, hcut, hdecode⟩))
      · rw [if_neg (by show ¬_ < statedSize data; omega)] at hdecode
        exact .inr (.inr (.inr ⟨hmagic, hwhole, hdecode⟩))
    · exact .inr (.inl ⟨long, hmagic, by rw [decode, decode_badMagic long hmagic]⟩)

/-- A message that was decoded has the bytes that it was read from as its frame. -/
theorem frame_of_decode {data : Bytes} {m : Message} (h : decode data = .ok m) :
    m.Fits ∧ m.frame = data.take (headerSize + m.payload.length) ∧
      headerSize + m.payload.length ≤ data.length := by
  rcases decode_outcomes data with
    ⟨-, hfail⟩ | ⟨-, -, hfail⟩ | ⟨-, -, -, hfail⟩ | ⟨hmagic, hwhole, hok⟩
  · rw [hfail] at h; cases h
  · rw [hfail] at h; cases h
  · rw [hfail] at h; cases h
  · rw [hok] at h
    obtain rfl := Except.ok.inj h
    obtain ⟨hbytes, hbound⟩ := bytes_statedSize (by omega) hmagic
    have hlength : ((data.drop headerSize).take (statedSize data)).length = statedSize data := by
      rw [List.length_take, List.length_drop]; omega
    rw [Fits, frame]
    simp only [hlength]
    exact ⟨hbound, by rw [hbytes, List.take_add], hwhole⟩

/-- A message that was decoded encodes to the bytes that it was read from. -/
theorem encode_of_decode {data : Bytes} {m : Message} (h : decode data = .ok m) :
    encode m.type.toNat m.payload = .ok (data.take (headerSize + m.payload.length)) := by
  obtain ⟨hfits, hframe, -⟩ := frame_of_decode h
  rw [encode_eq_frame hfits, hframe]

/-- A frame is decoded as its message, whatever follows it. -/
theorem decode_frame_append {m : Message} (fits : m.Fits) (rest : Bytes) :
    decode (m.frame ++ rest) = .ok m := by
  have hpayload : ((m.frame ++ rest).drop headerSize).take m.payload.length = m.payload := by
    rw [frame, List.append_assoc, List.drop_left' (Header.length_bytes _), List.take_left]
  have hwhole : ¬(m.frame ++ rest).length - headerSize < m.payload.length := by
    rw [List.length_append, length_frame]; omega
  rw [decode_of_header (decodeHeader_frame_append fits rest), if_neg hwhole, hpayload]

/-- A message can be encoded if its type is a byte and its payload is not too large. -/
theorem encode_ok_iff (type : Int) (payload : Bytes) :
    (∃ bytes, encode type payload = .ok bytes) ↔
      0 ≤ type ∧ type ≤ 255 ∧ payload.length ≤ maxPayloadSize := by
  rcases encode_outcomes type payload with
    ⟨hrange, hfail⟩ | ⟨-, hlong, hfail⟩ | ⟨m, rfl, rfl, hfits, hok⟩
  · rw [hfail]
    exact iff_of_false (fun ⟨_, h⟩ => by cases h) fun h => hrange ⟨h.1, h.2.1⟩
  · rw [hfail]
    exact iff_of_false (fun ⟨_, h⟩ => by cases h) fun h => Nat.not_le.2 hlong h.2.2
  · have htype := m.type.toNat_lt
    exact iff_of_true ⟨_, hok⟩ ⟨by omega, by omega, hfits⟩

/-- A type that is no byte is refused. -/
theorem encode_typeOutOfRange {type : Int} (h : ¬(0 ≤ type ∧ type ≤ 255)) (payload : Bytes) :
    encode type payload = .error (.typeOutOfRange type) := by
  rcases encode_outcomes type payload with ⟨-, hfail⟩ | ⟨hrange, -⟩ | ⟨m, rfl, -⟩
  · exact hfail
  · exact absurd hrange h
  · have htype := m.type.toNat_lt
    exact absurd ⟨by omega, by omega⟩ h

theorem encode_payloadTooLarge {type : Int} (h : 0 ≤ type ∧ type ≤ 255) {payload : Bytes}
    (hlong : maxPayloadSize < payload.length) :
    encode type payload = .error (.payloadTooLarge payload.length) := by
  rcases encode_outcomes type payload with ⟨hrange, -⟩ | ⟨-, -, hfail⟩ | ⟨m, -, rfl, hfits, -⟩
  · exact absurd h hrange
  · exact hfail
  · exact absurd hfits (Nat.not_le.2 hlong)

/-- An encoded message is decoded, whatever follows its bytes. -/
theorem decode_encode_append {type : Int} {payload bytes : Bytes}
    (h : encode type payload = .ok bytes) (rest : Bytes) :
    ∃ m, decode (bytes ++ rest) = .ok m ∧ (m.type.toNat : Int) = type ∧ m.payload = payload := by
  rcases encode_outcomes type payload with ⟨-, hfail⟩ | ⟨-, -, hfail⟩ | ⟨m, rfl, rfl, hfits, hok⟩
  · rw [hfail] at h; cases h
  · rw [hfail] at h; cases h
  · rw [hok] at h
    obtain rfl := Except.ok.inj h
    exact ⟨m, decode_frame_append hfits rest, rfl, rfl⟩

/-- Data that cannot be decoded fail under one label only. -/
theorem decode_label_iff {data : Bytes} {failure : Failure} (h : decode data = .error failure)
    (label : String) :
    (∃ f, decode data = .error f ∧ f.label? = some label) ↔ failure.label? = some label := by
  rw [h]
  exact ⟨fun ⟨_, heq, hlabel⟩ => by cases heq; exact hlabel, fun hlabel => ⟨_, rfl, hlabel⟩⟩

/-- Data are cut off in the header, or behind it. -/
theorem decode_truncated_iff (data : Bytes) :
    (∃ failure, decode data = .error failure ∧ failure.label? = some "TruncatedMessageError") ↔
      data.length < headerSize ∨
        data.take 7 = magic ∧ data.length < headerSize + statedSize data := by
  rcases decode_outcomes data with
    ⟨short, hfail⟩ | ⟨long, hne, hfail⟩ | ⟨-, hmagic, hcut, hfail⟩ | ⟨hmagic, hwhole, hok⟩
  · rw [decode_label_iff hfail]
    exact iff_of_true rfl (.inl short)
  · rw [decode_label_iff hfail]
    exact iff_of_false (by simp [Failure.label?]) fun h =>
      h.elim (Nat.not_lt.2 long) fun hmagic => hne hmagic.1
  · rw [decode_label_iff hfail]
    exact iff_of_true rfl (.inr ⟨hmagic, hcut⟩)
  · rw [hok]
    exact iff_of_false (fun ⟨_, h, _⟩ => by cases h) (by omega)

/-- Data have a bad magic if they are long enough to have one. -/
theorem decode_badMagic_iff (data : Bytes) :
    (∃ failure, decode data = .error failure ∧ failure.label? = some "BadMagicError") ↔
      headerSize ≤ data.length ∧ data.take 7 ≠ magic := by
  rcases decode_outcomes data with
    ⟨short, hfail⟩ | ⟨long, hne, hfail⟩ | ⟨-, hmagic, hcut, hfail⟩ | ⟨hmagic, hwhole, hok⟩
  · rw [decode_label_iff hfail]
    exact iff_of_false (by simp [Failure.label?]) fun h => Nat.not_lt.2 h.1 short
  · rw [decode_label_iff hfail]
    exact iff_of_true rfl ⟨long, hne⟩
  · rw [decode_label_iff hfail]
    exact iff_of_false (by simp [Failure.label?]) fun h => h.2 hmagic
  · rw [hok]
    exact iff_of_false (fun ⟨_, h, _⟩ => by cases h) fun h => h.2 hmagic

/-- There is no other way to fail. -/
theorem label?_of_decode {data : Bytes} {failure : Failure} (h : decode data = .error failure) :
    failure.label? = some "TruncatedMessageError" ∨ failure.label? = some "BadMagicError" := by
  rcases decode_outcomes data with
    ⟨-, hfail⟩ | ⟨-, -, hfail⟩ | ⟨-, -, -, hfail⟩ | ⟨-, -, hok⟩
  · rw [hfail] at h; cases h; exact .inl rfl
  · rw [hfail] at h; cases h; exact .inr rfl
  · rw [hfail] at h; cases h; exact .inl rfl
  · rw [hok] at h; cases h

/-- **Encoding and decoding are inverse.** Just the types that are a byte and the payloads that are
not too long can be encoded, and the type is checked first. An encoded message is decoded from its
bytes, whatever follows them, and a message that was decoded encodes to the bytes that it was read
from. Data are called cut off just if they are too short for a header, or begin with the magic and
are too short for the size that is stated behind it; their magic is called bad just if they are long
enough for a header and begin with something else. -/
theorem encode_and_decode_are_inverse (type : Int) (payload data : Bytes) :
    ((∃ bytes, encode type payload = .ok bytes) ↔
        0 ≤ type ∧ type ≤ 255 ∧ payload.length ≤ 0xFFFFFFFF) ∧
      (¬(0 ≤ type ∧ type ≤ 255) → encode type payload = .error (.typeOutOfRange type)) ∧
      (0 ≤ type ∧ type ≤ 255 → 0xFFFFFFFF < payload.length →
        encode type payload = .error (.payloadTooLarge payload.length)) ∧
      (∀ bytes, encode type payload = .ok bytes → ∀ rest, ∃ m,
        decode (bytes ++ rest) = .ok m ∧ (m.type.toNat : Int) = type ∧ m.payload = payload) ∧
      (∀ m, decode data = .ok m →
        encode m.type.toNat m.payload = .ok (data.take (12 + m.payload.length))) ∧
      ((∃ failure, decode data = .error failure ∧ failure.label? = some "TruncatedMessageError") ↔
        data.length < 12 ∨
          data.take 7 = Bytes.ofAscii "DWM-IPC" ∧ data.length < 12 + Header.statedSize data) ∧
      ((∃ failure, decode data = .error failure ∧ failure.label? = some "BadMagicError") ↔
        12 ≤ data.length ∧ data.take 7 ≠ Bytes.ofAscii "DWM-IPC") := by
  exact ⟨encode_ok_iff type payload, fun hrange => encode_typeOutOfRange hrange payload,
    fun hrange hlong => encode_payloadTooLarge hrange hlong, fun _ => decode_encode_append,
    fun _ => encode_of_decode, decode_truncated_iff data, decode_badMagic_iff data⟩

end Message

end DwmIpc
