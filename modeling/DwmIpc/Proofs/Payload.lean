import DwmIpc.Proofs.Utf8
import DwmIpc.Request
import Mathlib.Data.Nat.Digits.Defs

/-!
# Payloads that can always be made

A text can be encoded if its surrogates all stand for bytes. Texts that were
decoded from bytes are of this kind (`encodable_decodeEscaping`), and writing JSON
keeps them so, whatever the arguments of a command look like. So the payload of a
command or a subscription in such texts can be made (`payload_runCommand`,
`payload_subscribe`), and the payload for a window can be made just if the window
has not too many digits (`payload_getClient`).
-/

namespace DwmIpc

/-! ## Texts that have bytes -/

/-- Every code point has bytes. -/
def Text.Encodable (t : Text) : Prop :=
  ∀ c ∈ t, ∃ bytes, Utf8.encodeCodePoint? c = some bytes

/-- The text was decoded from bytes, with stray bytes standing for themselves. -/
def Text.IsRaw (t : Text) : Prop :=
  ∃ bytes, t = Utf8.decodeEscaping bytes

namespace Text.Encodable

theorem nil : Encodable [] :=
  fun _ hc => absurd hc List.not_mem_nil

/-- Text without surrogates can be encoded. -/
theorem scalars (chars : List Char) : Encodable (chars.map .scalar) := by
  intro c hc
  obtain ⟨char, -, rfl⟩ := List.mem_map.1 hc
  exact ⟨Utf8.encodeChar char, rfl⟩

theorem append {s t : Text} (hs : Encodable s) (ht : Encodable t) : Encodable (s ++ t) := by
  intro c hc
  rcases List.mem_append.1 hc with h | h
  · exact hs c h
  · exact ht c h

theorem scalar {char : Char} {t : Text} (ht : Encodable t) : Encodable (.scalar char :: t) :=
  append (s := [.scalar char]) (scalars [char]) ht

theorem reverse {t : Text} (ht : Encodable t) : Encodable t.reverse :=
  fun c hc => ht c (List.mem_reverse.1 hc)

theorem push {done t : Text} (hdone : Encodable done) (ht : Encodable t) :
    Encodable (Json.push done t) := by
  rw [Json.push, List.reverseAux_eq]
  exact ht.reverse.append hdone

end Text.Encodable

namespace Utf8

open Text

/-- A code point takes four bytes at most. -/
theorem length_encodeNat (n : Nat) : (encodeNat n).length ≤ 4 := by
  unfold encodeNat
  split
  · exact Nat.le_of_ble_eq_true rfl
  · split
    · exact Nat.le_of_ble_eq_true rfl
    · split <;> exact Nat.le_of_ble_eq_true rfl

theorem length_encodeCodePoint? {c : CodePoint} {bytes : Bytes}
    (h : encodeCodePoint? c = some bytes) : bytes.length ≤ 4 := by
  cases c with
  | scalar char =>
    obtain rfl : encodeChar char = bytes := Option.some.inj h
    exact length_encodeNat _
  | surrogate offset =>
    obtain ⟨byte, -, rfl⟩ := Option.map_eq_some_iff.1 h
    exact Nat.le_of_ble_eq_true rfl

/-- An encodable text has bytes, at most four for each code point. -/
theorem encodeFrom_ok {t : Text} (ht : t.Encodable) (done : Bytes) (position : Nat) :
    ∃ bytes, encodeFrom done position t = .ok bytes ∧
      bytes.length ≤ done.length + 4 * t.length := by
  induction t generalizing done position with
  | nil => exact ⟨done.reverse, rfl, by simp⟩
  | cons c rest ih =>
    obtain ⟨first, hfirst⟩ := ht c (List.mem_cons_self ..)
    have hlength := length_encodeCodePoint? hfirst
    obtain ⟨bytes, hbytes, hbound⟩ :=
      ih (fun c' hc' => ht c' (List.mem_cons_of_mem _ hc')) (first.reverse ++ done) (position + 1)
    refine ⟨bytes, ?_, ?_⟩
    · rw [encodeFrom, hfirst]
      exact hbytes
    · rw [List.length_append, List.length_reverse] at hbound
      rw [List.length_cons]
      omega

/-- What a byte is decoded to can be encoded, a byte that is escaped included. -/
theorem encodable_escapingStep (byte : UInt8) (rest : Bytes) :
    ∃ bytes, encodeCodePoint? (escapingStep byte rest).1 = some bytes := by
  unfold escapingStep
  cases hsequence : sequence byte rest with
  | char c following => exact ⟨encodeChar c, rfl⟩
  | broken following =>
    refine ⟨[byte], ?_⟩
    have hstray := CodePoint.undecoded?_undecoded (broken_of_sequence hsequence)
    exact congrArg (Option.map ([·])) hstray

/-- Decoding with escapes never fails, and its text can be encoded. -/
theorem decodeBy_escaping (pending : Nat) {done : Text} (hdone : done.Encodable) (bytes : Bytes) :
    ∃ t, decodeBy (fun byte rest => some (escapingStep byte rest)) pending done bytes = some t ∧
      t.Encodable := by
  induction bytes generalizing pending done with
  | nil => exact ⟨done.reverse, by rw [decodeBy], hdone.reverse⟩
  | cons byte rest ih =>
    cases pending with
    | zero =>
      rw [decodeBy]
      -- a code point is added: one that was decoded, or one that stands for a stray byte
      refine ih _ ?_
      intro c hc
      rcases List.mem_cons.1 hc with rfl | hc
      · exact encodable_escapingStep byte rest
      · exact hdone c hc
    | succ pending =>
      rw [decodeBy]
      exact ih pending hdone

end Utf8

/-- A text decoded from bytes has bytes. -/
theorem Text.IsRaw.encodable {t : Text} (h : t.IsRaw) : t.Encodable := by
  obtain ⟨bytes, rfl⟩ := h
  obtain ⟨t, ht, hencodable⟩ := Utf8.decodeBy_escaping 0 Encodable.nil bytes
  rw [Utf8.decodeEscaping, ht]
  exact hencodable

/-! ## Documents -/

namespace Text.Encodable

theorem hex (width n : Nat) : Encodable (Quoted.hex width n) := by
  induction width generalizing n with
  | zero => exact nil
  | succ width ih => exact (ih _).append (scalar nil)

theorem unicodeEscape (n : Nat) : Encodable (Json.unicodeEscape n) :=
  (scalars _).append (hex 4 n)

/-- A code point that has bytes is written as something that has bytes. -/
theorem escape {c : CodePoint} (hc : Encodable [c]) : Encodable (Json.escape .unicode c) := by
  simp only [Json.escape, or_true, if_true]
  iterate 7 (split; exact scalars _)
  split
  next => exact unicodeEscape _
  next => exact hc

/-- A text is written with characters that can be encoded, if it has such characters itself. -/
theorem writeText {done t : Text} (hdone : Encodable done) (ht : Encodable t) :
    Encodable (Json.writeText .unicode done t) := by
  refine scalar ?_
  have hstart : Encodable (.scalar '"' :: done) := hdone.scalar
  generalize CodePoint.scalar '"' :: done = start at hstart
  induction t generalizing start with
  | nil => exact hstart
  | cons c rest ih =>
    refine ih (fun c' hc' => ht c' (List.mem_cons_of_mem _ hc')) _ (hstart.push (escape ?_))
    intro c' hc'
    exact ht c' (List.mem_singleton.1 hc' ▸ List.mem_cons_self ..)

theorem ofInt (n : Int) : Encodable (Text.ofInt n) := by
  cases n with
  | ofNat n => exact scalars _
  | negSucc n => exact (scalars _).scalar

theorem double (x : Double) : Encodable (DecimalLayout.json.text x) := by
  cases x with
  | nan => exact scalars _
  | infinite negative => exact (scalars _).append (scalars _)
  | finite negative magnitude =>
    unfold DecimalLayout.text
    refine (scalars _).append ?_
    split <;> exact scalars _

/-- An argument is a number or the text itself. -/
theorem writeArgument {done t : Text} (hdone : Encodable done) (ht : Encodable t) (limit : Nat) :
    Encodable (Json.write .unicode done (Argument.classify limit t).toJson) := by
  have htext : Encodable (Json.write .unicode done (Argument.text t).toJson) := by
    rw [Argument.toJson, Json.write]
    exact hdone.writeText ht
  unfold Argument.classify
  split
  next =>
    rw [Argument.toJson, Json.write]
    exact hdone.push (ofInt _)
  next =>
    split
    next =>
      show Encodable (Json.write .unicode done
        (if (Argument.double t).isFinite then _ else Argument.text t).toJson)
      split
      next =>
        rw [Argument.toJson, Json.write]
        exact hdone.push (double _)
      next => exact htext
    next => exact htext

/-- Arguments are written with characters that can be encoded. -/
theorem writeArguments {done : Text} (hdone : Encodable done) (limit : Nat) {arguments : List Text}
    (hraw : ∀ a ∈ arguments, Encodable a) :
    Encodable (Json.writeItems .unicode done
      (arguments.map fun a => (Argument.classify limit a).toJson)) := by
  induction arguments generalizing done with
  | nil => rw [List.map_nil, Json.writeItems]; exact hdone
  | cons a rest ih =>
    have ha := hdone.writeArgument (hraw a (List.mem_cons_self ..)) limit
    have hrest : ∀ b ∈ rest, Encodable b := fun b hb => hraw b (List.mem_cons_of_mem _ hb)
    cases rest with
    | nil => rw [List.map_cons, List.map_nil, Json.writeItems]; exact ha
    | cons b more =>
      rw [List.map_cons, List.map_cons, Json.writeItems]
      exact ih ha.scalar hrest

end Text.Encodable

namespace Request

open Text

/-- A body that can be encoded takes four bytes for each character at most. -/
theorem encodeBody_ok {body : Json} (h : Encodable (Json.render .unicode body)) :
    ∃ bytes, encodeBody body = .ok bytes ∧
      bytes.length ≤ 4 * (Json.render .unicode body).length := by
  obtain ⟨bytes, hbytes, hlength⟩ := Utf8.encodeFrom_ok h [] 0
  refine ⟨bytes, ?_, by simpa using hlength⟩
  rw [encodeBody, Utf8.encodeEscaping, hbytes]

/-- A command in texts that have bytes has a payload. -/
theorem payload_runCommand {name : Text} {arguments : List Text} (hname : Encodable name)
    (harguments : ∀ a ∈ arguments, Encodable a) :
    ∃ bytes, (runCommand name arguments).payload = .ok bytes := by
  have hbody : Encodable (Json.render .unicode (.obj [("command", .str name),
      ("args", .arr (arguments.map fun a => (Argument.classify maxDigits a).toJson))])) := by
    refine Encodable.reverse ?_
    simp only [Json.write, Json.writeFields]
    refine .scalar (.scalar (.writeArguments (.scalar (.scalar ?_)) _ harguments))
    refine .writeText (.scalar (.writeText (.scalar (.writeText (.scalar .nil) (.scalars _)))
      hname)) ?_
    exact .scalars _
  obtain ⟨bytes, hbytes, -⟩ := encodeBody_ok hbody
  exact ⟨bytes, hbytes⟩

/-- So has a subscription. -/
theorem payload_subscribe {event : Text} (hevent : Encodable event) :
    ∃ bytes, (subscribe event).payload = .ok bytes := by
  have hbody : Encodable (Json.render .unicode
      (.obj [("event", .str event), ("action", .str "subscribe")])) := by
    refine Encodable.reverse ?_
    simp only [Json.write, Json.writeFields]
    refine .scalar (.writeText (.scalar (.writeText (.scalar (.writeText (.scalar
      (.writeText (.scalar .nil) (.scalars _))) hevent)) ?_)) ?_)
    · exact .scalars _
    · exact .scalars _
  obtain ⟨bytes, hbytes, -⟩ := encodeBody_ok hbody
  exact ⟨bytes, hbytes⟩

/-- An integer below a power of ten has that many digits at most, and a sign. -/
theorem length_ofInt {n : Int} {k : Nat} (hk : 0 < k) (h : n.natAbs < Nat.pow 10 k) :
    (Text.ofInt n).length ≤ k + 1 := by
  cases n with
  | ofNat n =>
    rw [Text.ofInt, Text.ofNat, List.length_map]
    exact Nat.le_succ_of_le ((Nat.length_toDigits_le_iff (by decide) hk).2 h)
  | negSucc n =>
    rw [Text.ofInt, Text.ofNat, List.length_cons, List.length_map]
    exact Nat.succ_le_succ ((Nat.length_toDigits_le_iff (by decide) hk).2 h)

/-- A query for a window has a payload, and a short one, unless the number has too many digits. -/
theorem payload_getClient {window : Int} (h : isUnwritable window = false) :
    ∃ bytes, (getClient window).payload = .ok bytes ∧ bytes.length ≤ maxPayloadSize := by
  have hbody : Encodable (Json.render .unicode (.obj [("client_window_id", .int window)])) := by
    refine Encodable.reverse ?_
    simp only [Json.write, Json.writeFields]
    refine .scalar (.push (.scalar (.writeText (.scalar .nil) ?_)) (.ofInt _))
    exact .scalars _
  obtain ⟨bytes, hbytes, hlength⟩ := encodeBody_ok hbody
  refine ⟨bytes, ?_, Nat.le_trans hlength ?_⟩
  · rw [payload, h]
    exact hbytes
  · have hdigits : (Text.ofInt window).length ≤ maxDigits + 1 := by
      refine length_ofInt (by decide) ?_
      rw [isUnwritable, decide_eq_false_iff_not] at h
      exact Nat.lt_of_not_le h
    have hfront : (Json.writeText .unicode [.scalar '\x7b'] "client_window_id").length = 19 := by
      decide
    have hrender : (Json.render .unicode (.obj [("client_window_id", .int window)])).length
        = (Text.ofInt window).length + 21 := by
      simp only [Json.render, Json.write, Json.writeFields, Json.push, List.reverseAux_eq,
        List.length_reverse, List.length_cons, List.length_append, hfront]
    rw [hrender]
    have hlimit : maxDigits = 4300 := rfl
    have hmax : maxPayloadSize = 4294967295 := rfl
    omega

/-- A window whose number has too many digits has no payload. -/
theorem payload_unwritable {window : Int} (h : isUnwritable window = true) :
    (getClient window).payload = .error .unwritableInteger := by
  rw [payload, if_pos h]

end Request

end DwmIpc
