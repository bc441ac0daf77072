import DwmIpc.Proofs.Requests

/-!
# Raw bytes pass through a payload

The words of a command line are bytes, which need not be UTF-8. They are decoded,
escaped as characters and encoded again, and the result is as if the bytes themselves
had been escaped (`spells_quoted`): whatever bytes a name, an argument that stays text
or an event consists of, they stand in the payload in their order, with escapes for
the quote, the backslash and the controls only (`payload_of_raw`).
-/

namespace DwmIpc

/-! ## Escaping bytes -/

namespace Bytes

/-- The bytes of a text in ASCII. -/
def ofText (t : Text) : Bytes :=
  t.map fun c => UInt8.ofNat c.toNat

/-- The letter of the escapes that have one. -/
def escapeLetter? (byte : UInt8) : Option Char :=
  match Char.ofNat byte.toNat with
  | '"' => some '"'
  | '\\' => some '\\'
  | '\x08' => some 'b'
  | '\t' => some 't'
  | '\n' => some 'n'
  | '\x0c' => some 'f'
  | '\r' => some 'r'
  | _ => none

/-- A byte as it stands between quotes in a document. -/
def escapeByte (byte : UInt8) : Bytes :=
  match escapeLetter? byte with
  | some letter => ofText [.scalar '\\', .scalar letter]
  | none =>
    if byte.toNat < 0x20 then
      ofAscii "\\u00" ++ ofText [.scalar (Nat.digitChar (byte.toNat / 0x10)),
        .scalar (Nat.digitChar (byte.toNat % 0x10))]
    else [byte]

/-- Bytes between quotes. -/
def quoted (bytes : Bytes) : Bytes :=
  ofAscii "\"" ++ bytes.flatMap escapeByte ++ ofAscii "\""

/-- Bytes from 128 on are not escaped. -/
theorem escapeByte_high : ∀ n < 0x100, 0x80 ≤ n →
    escapeByte (UInt8.ofNat n) = [UInt8.ofNat n] := by
  decide +kernel

/-- High bytes stay as they are. -/
theorem flatMap_escapeByte_high {bytes : Bytes} (h : ∀ b ∈ bytes, 0x80 ≤ b.toNat) :
    bytes.flatMap escapeByte = bytes := by
  induction bytes with
  | nil => rfl
  | cons b more ih =>
    have hfirst := escapeByte_high b.toNat b.toNat_lt (h b (List.mem_cons_self ..))
    rw [UInt8.ofNat_toNat] at hfirst
    rw [List.flatMap_cons, hfirst, ih fun d hd => h d (List.mem_cons_of_mem _ hd)]
    rfl

end Bytes

namespace Utf8

theorem encodeCodePoint?_low {c : Char} (h : c.toNat < 0x80) :
    encodeCodePoint? (.scalar c) = some [UInt8.ofNat c.toNat] := by
  rw [encodeCodePoint?, encodeChar, encodeNat, if_pos h]

/-- A text in ASCII stands for its bytes. -/
theorem spells_ascii {t : Text} (h : ∀ c ∈ t, c.toNat < 0x80) : Spells t (Bytes.ofText t) := by
  induction t with
  | nil => exact .nil
  | cons c more ih =>
    have hlow := h c (List.mem_cons_self ..)
    have hrest := ih fun d hd => h d (List.mem_cons_of_mem _ hd)
    cases c with
    | scalar char => exact .cons (encodeCodePoint?_low hlow) hrest
    | surrogate offset =>
      simp only [CodePoint.toNat] at hlow
      omega

/-- Plain text is spelled by its own bytes. -/
theorem spells_ofAscii {s : String} (h : (s.toList.all fun c => decide (c.toNat < 0x80)) = true) :
    Spells (Text.ofString s) (Bytes.ofAscii s) := by
  have hspells := spells_ascii (t := Text.ofString s) fun c hc => by
    obtain ⟨char, hchar, rfl⟩ := List.mem_map.1 hc
    exact of_decide_eq_true (List.all_eq_true.1 h char hchar)
  rw [Bytes.ofText, Text.ofString, List.map_map] at hspells
  exact hspells

/-- Bytes of ASCII are what their characters stand for. -/
theorem spells_low {bytes : Bytes} (h : ∀ b ∈ bytes, b.toNat < 0x80) :
    Spells (bytes.map fun b => .scalar (Char.ofNat b.toNat)) bytes := by
  induction bytes with
  | nil => exact .nil
  | cons b more ih =>
    have hlow := h b (List.mem_cons_self ..)
    have hcharacter : (Char.ofNat b.toNat).toNat = b.toNat := toNat_ofNat_char (by omega)
    have hfirst := encodeCodePoint?_low (hcharacter.symm ▸ hlow)
    rw [hcharacter, UInt8.ofNat_toNat] at hfirst
    exact .cons hfirst (ih fun d hd => h d (List.mem_cons_of_mem _ hd))

/-- Beyond ASCII there are only high bytes. -/
theorem high_of_encodeCodePoint? {c : CodePoint} {bytes : Bytes} (hhigh : 0x80 ≤ c.toNat)
    (h : encodeCodePoint? c = some bytes) : ∀ b ∈ bytes, 0x80 ≤ b.toNat := by
  intro b hb
  cases c with
  | scalar char =>
    obtain rfl := Option.some.inj h
    have hvalid := toNat_valid char
    have hhigh : 0x80 ≤ char.toNat := hhigh
    unfold encodeChar encodeNat at hb
    split at hb
    next hlow => omega
    next =>
      have hbyte (n : Nat) (hn : 0x80 ≤ n ∧ n < 0x100) : 0x80 ≤ (UInt8.ofNat n).toNat := by
        rw [UInt8.toNat_ofNat']
        omega
      split at hb
      · simp only [List.mem_cons, List.not_mem_nil, or_false] at hb
        rcases hb with rfl | rfl <;> exact hbyte _ (by omega)
      · split at hb
        · simp only [List.mem_cons, List.not_mem_nil, or_false] at hb
          rcases hb with rfl | rfl | rfl <;> exact hbyte _ (by omega)
        · simp only [List.mem_cons, List.not_mem_nil, or_false] at hb
          rcases hb with rfl | rfl | rfl | rfl <;> exact hbyte _ (by omega)
  | surrogate offset =>
    obtain ⟨stray, hstray, rfl⟩ := Option.map_eq_some_iff.1 h
    obtain rfl := List.mem_singleton.1 hb
    rw [CodePoint.undecoded?] at hstray
    split at hstray
    next hrange =>
      obtain rfl := Option.some.inj hstray
      rw [UInt8.toNat_ofNat']
      omega
    next => cases hstray

/-- Texts with commas between them stand for their bytes with commas between them. -/
theorem spells_joinWith {α : Type} {items : List α} {text : α → Text} {bytes : α → Bytes}
    (h : ∀ a ∈ items, Spells (text a) (bytes a)) :
    Spells (Text.joinWith Json.comma (items.map text))
      ((Bytes.ofAscii ",").intercalate (items.map bytes)) := by
  induction items with
  | nil => exact .nil
  | cons a more ih =>
    have hfirst := h a (List.mem_cons_self ..)
    have hrest := ih fun b hb => h b (List.mem_cons_of_mem _ hb)
    have hcomma : Spells Json.comma (Bytes.ofAscii ",") := spells_ofAscii (s := ",") (by decide)
    cases more with
    | nil => simpa using hfirst
    | cons b more =>
      rw [List.map_cons, List.map_cons, Text.joinWith_cons_cons, List.map_cons, List.map_cons,
        List.intercalate_cons_cons]
      exact (hfirst.append hcomma).append hrest

/-- Characters of ASCII stand for low bytes. -/
theorem low_of_spells {t : Text} {bytes : Bytes} (h : Spells t bytes)
    (hlow : ∀ c ∈ t, c.toNat < 0x80) : ∀ b ∈ bytes, b.toNat < 0x80 := by
  induction h with
  | nil => exact fun _ hb => absurd hb List.not_mem_nil
  | @cons c t first rest hfirst _ ih =>
    have hc := hlow c (List.mem_cons_self ..)
    intro b hb
    rcases List.mem_append.1 hb with hb | hb
    · cases c with
      | scalar char =>
        rw [encodeCodePoint?_low hc] at hfirst
        obtain rfl := Option.some.inj hfirst
        obtain rfl := List.mem_singleton.1 hb
        rw [UInt8.toNat_ofNat']
        exact Nat.lt_of_le_of_lt (Nat.mod_le _ _) hc
      | surrogate offset =>
        simp only [CodePoint.toNat] at hc
        omega
    · exact ih (fun d hd => hlow d (List.mem_cons_of_mem _ hd)) b hb

end Utf8

namespace Json

open Utf8

/-- Below 128 a character and its byte are escaped alike. -/
theorem escape_low : ∀ n < 0x80,
    escape .unicode (.scalar (Char.ofNat n)) =
      (Bytes.escapeByte (UInt8.ofNat n)).map (fun b => .scalar (Char.ofNat b.toNat)) ∧
    ∀ b ∈ Bytes.escapeByte (UInt8.ofNat n), b.toNat < 0x80 := by
  decide +kernel

/-- Characters from 128 on are not escaped. -/
theorem escape_high {c : CodePoint} (h : 0x80 ≤ c.toNat) : escape .unicode c = [c] := by
  obtain ⟨char, letter, rfl, hletter, -⟩ | ⟨hcontrol, -⟩ | ⟨-, -, -, hescape⟩ := escape_cases c
  · have hlow : char.toNat < 0x80 := by
      unfold shortEscape? at hletter
      split at hletter <;> cases hletter <;> decide
    exact absurd hlow (Nat.not_lt.2 h)
  · omega
  · exact hescape

/-- The escape of a code point stands for the escapes of its bytes. -/
theorem spells_escape {c : CodePoint} {bytes : Bytes} (h : encodeCodePoint? c = some bytes) :
    Spells (escape .unicode c) (bytes.flatMap Bytes.escapeByte) := by
  rcases Nat.lt_or_ge c.toNat 0x80 with hlow | hhigh
  · cases c with
    | scalar char =>
      rw [encodeCodePoint?_low hlow] at h
      obtain rfl := Option.some.inj h
      obtain ⟨hescape, hbytes⟩ := escape_low char.toNat hlow
      rw [Char.ofNat_toNat] at hescape
      rw [hescape, List.flatMap_singleton]
      exact spells_low hbytes
    | surrogate offset =>
      simp only [CodePoint.toNat] at hlow
      omega
  · have hall : bytes.flatMap Bytes.escapeByte = bytes :=
      Bytes.flatMap_escapeByte_high (high_of_encodeCodePoint? hhigh h)
    rw [escape_high hhigh, hall]
    have hspells := Spells.cons h .nil
    rwa [List.append_nil] at hspells

/-- A text between quotes stands for its bytes between quotes. -/
theorem spells_quoted {t : Text} {bytes : Bytes} (h : Spells t bytes) :
    Spells (quoted .unicode t) (Bytes.quoted bytes) := by
  have hescaped : Spells (t.flatMap (escape .unicode)) (bytes.flatMap Bytes.escapeByte) := by
    induction h with
    | nil => exact .nil
    | cons hfirst _ ih =>
      rw [List.flatMap_cons, List.flatMap_append]
      exact (spells_escape hfirst).append ih
  have hquote : Spells [.scalar '"'] (Bytes.ofAscii "\"") := spells_ofAscii (s := "\"") (by decide)
  exact (hquote.append hescaped).append hquote

end Json

/-! ## Arguments -/

namespace Argument

open Utf8

/-- The characters of numbers. -/
def isFigure (c : CodePoint) : Bool :=
  c.isDigit || c == .scalar '-' || c == .scalar '.'

theorem all_isFigure_of_digits {t : Text} (h : t.all CodePoint.isDigit = true) :
    t.all isFigure = true := by
  rw [List.all_eq_true] at h ⊢
  intro c hc
  simp [isFigure, h c hc]

theorem all_isFigure_withoutMinus {t : Text} (h : t.withoutMinus.all isFigure = true) :
    t.all isFigure = true := by
  unfold Text.withoutMinus at h
  split at h
  next => simpa [isFigure] using h
  next => exact h

/-- Integers are made of figures. -/
theorem all_isFigure_of_isSignedInt {t : Text} (h : t.isSignedInt = true) :
    t.all isFigure = true := by
  rw [Text.isSignedInt, Text.isUnsignedInt, Bool.and_eq_true] at h
  exact all_isFigure_withoutMinus (all_isFigure_of_digits h.2)

theorem all_isFigure_of_isFloat {t : Text} (h : t.isFloat = true) : t.all isFigure = true := by
  refine all_isFigure_withoutMinus ?_
  have hsplit := List.takeWhile_append_dropWhile (p := CodePoint.isDigit) (l := t.withoutMinus)
  have hfront : (t.withoutMinus.takeWhile CodePoint.isDigit).all isFigure = true :=
    all_isFigure_of_digits List.all_takeWhile
  rw [← hsplit, List.all_append, hfront, Bool.true_and]
  unfold Text.isFloat at h
  simp only [Text.afterDigits] at h
  split at h
  next hrest => rw [hrest]; rfl
  next fraction hrest =>
    simp only [Text.isUnsignedInt, Bool.and_eq_true] at h
    rw [hrest, List.all_cons, all_isFigure_of_digits h.1.2]
    rfl
  next => cases h

/-- What is sent as a number consists of the characters of numbers. -/
theorem classify_of_figure {t : Text} (h : t.all isFigure = false) (limit : Nat) :
    classify limit t = .text t := by
  have hint : t.isSignedInt = false := Bool.eq_false_iff.2 fun hint => by
    rw [all_isFigure_of_isSignedInt hint] at h
    cases h
  have hfloat : t.isFloat = false := Bool.eq_false_iff.2 fun hfloat => by
    rw [all_isFigure_of_isFloat hfloat] at h
    cases h
  rw [classify, hint, hfloat]
  rfl

theorem toNat_of_isDigit {c : Char} (h : c.isDigit = true) : c.toNat < 0x80 := by
  simp only [Char.isDigit, Bool.and_eq_true, decide_eq_true_eq, ge_iff_le] at h
  have hnine : c.toNat ≤ 57 := UInt32.le_iff_toNat_le.1 h.2
  exact Nat.lt_of_le_of_lt hnine (by decide)

/-- A figure is a plain character. -/
theorem toNat_of_isFigure {c : CodePoint} (h : isFigure c = true) : c.toNat < 0x80 := by
  simp only [isFigure, Bool.or_eq_true, beq_iff_eq] at h
  obtain (hdigit | rfl) | rfl := h
  · cases c with
    | scalar char => exact toNat_of_isDigit hdigit
    | surrogate offset => cases hdigit
  · decide
  · decide

/-- A byte beyond ASCII makes its argument a text. -/
theorem classify_of_high {raw : Bytes} (h : ∃ b ∈ raw, 0x80 ≤ b.toNat) (limit : Nat) :
    classify limit (decodeEscaping raw) = .text (decodeEscaping raw) := by
  refine classify_of_figure (Bool.eq_false_iff.2 fun hall => ?_) limit
  obtain ⟨b, hb, hhigh⟩ := h
  rw [List.all_eq_true] at hall
  have hlow := low_of_spells (spells_decodeEscaping raw)
    (fun c hc => toNat_of_isFigure (hall c hc)) b hb
  omega

/-- A number is written in ASCII. -/
theorem low_number {negative : Bool} {s : List Char}
    (h : ∀ c ∈ s, c.isDigit = true ∨ c ∈ ['.', 'e', '+', '-']) :
    ∀ c ∈ Json.sign negative ++ s.map .scalar, c.toNat < 0x80 := by
  have hmark : (['.', 'e', '+', '-'].all fun c => decide (c.toNat < 0x80)) = true := rfl
  intro c hc
  rcases List.mem_append.1 hc with hsign | hmem
  · cases negative with
    | true =>
      obtain rfl := List.mem_singleton.1 hsign
      decide
    | false => exact absurd hsign List.not_mem_nil
  · obtain ⟨char, hchar, rfl⟩ := List.mem_map.1 hmem
    rcases h char hchar with hdigit | hother
    · exact toNat_of_isDigit hdigit
    · exact of_decide_eq_true (List.all_eq_true.1 hmark char hother)

/-- Integers are written in plain characters. -/
theorem low_ofInt (n : Int) : ∀ c ∈ Text.ofInt n, c.toNat < 0x80 := by
  rw [Json.ofInt_eq_sign]
  exact low_number fun c hc => .inl (Text.allDigits_toDigits _ c hc)

theorem low_double {negative : Bool} {m : Nat} (h : Double.Representable m)
    (hfits : m < Double.overflow) :
    ∀ c ∈ DecimalLayout.json.text (.finite negative m), c.toNat < 0x80 := by
  obtain ⟨f, htext, hproper, -⟩ := Json.text_figures negative h hfits
  rw [htext]
  exact low_number fun c hc => Json.Figures.mem_characters hproper hc

/-- What stands for an argument in a payload: its own bytes between quotes, unless it is sent as a
number. -/
def part (raw : Bytes) : Bytes :=
  match classify maxDigits (decodeEscaping raw) with
  | .text _ => Bytes.quoted raw
  | number => Bytes.ofText (Json.render .unicode number.toJson)

/-- An argument is written as its part of the payload, whatever its bytes are. -/
theorem spells_part (raw : Bytes) :
    Spells (Json.render .unicode (classify maxDigits (decodeEscaping raw)).toJson) (part raw) := by
  unfold part
  obtain ⟨n, hclass, -⟩ | ⟨negative, m, hclass, hrepresentable, hfits⟩ | hclass :=
    classify_cases (show 0 < maxDigits by decide) (decodeEscaping raw)
  · rw [hclass]
    show Spells (Json.render .unicode (.int n)) (Bytes.ofText (Json.render .unicode (.int n)))
    rw [Json.render_int]
    exact spells_ascii (low_ofInt n)
  · rw [hclass]
    show Spells (Json.render .unicode (.float (.finite negative m)))
      (Bytes.ofText (Json.render .unicode (.float (.finite negative m))))
    rw [Json.render_float]
    exact spells_ascii (low_double hrepresentable hfits)
  · rw [hclass, toJson, Json.render_str]
    exact Json.spells_quoted (spells_decodeEscaping raw)

end Argument

namespace Request

open Text Utf8

/-- A body is encoded as the bytes that spell it. -/
theorem encodeBody_of_spells {body : Json} {bytes : Bytes}
    (h : Spells (Json.render .unicode body) bytes) : encodeBody body = .ok bytes := by
  rw [encodeBody, encodeEscaping_of_spells h]

/-- The text of a command, in its parts. -/
theorem render_runCommand (name : Text) (items : List Json) :
    Json.render .unicode (.obj [("command", .str name), ("args", .arr items)]) =
      ofString "\x7b\"command\":" ++ Json.quoted .unicode name ++ ofString ",\"args\":[" ++
        joinWith Json.comma (items.map (Json.render .unicode)) ++ ofString "]\x7d" := by
  have hcommand : Json.quoted .unicode (ofString "command") = ofString "\"command\"" := by decide
  have hargs : Json.quoted .unicode (ofString "args") = ofString "\"args\"" := by decide
  rw [Json.render_obj, List.map_cons, List.map_cons, List.map_nil, joinWith_cons_cons,
    joinWith_singleton, Json.renderField, Json.renderField, Json.render_str, Json.render_arr,
    hcommand, hargs]
  simp [ofString, Json.comma]

/-- The payload of a command, from the bytes of its name and arguments. -/
theorem runCommand_bytes (name : Bytes) (arguments : List Bytes) :
    (runCommand (decodeEscaping name) (arguments.map decodeEscaping)).payload =
      .ok (Bytes.ofAscii "\x7b\"command\":" ++ Bytes.quoted name ++ Bytes.ofAscii ",\"args\":[" ++
        (Bytes.ofAscii ",").intercalate (arguments.map Argument.part) ++
        Bytes.ofAscii "]\x7d") := by
  refine encodeBody_of_spells ?_
  rw [render_runCommand, List.map_map, List.map_map]
  have hname := Json.spells_quoted (spells_decodeEscaping name)
  have harguments := spells_joinWith fun a (_ : a ∈ arguments) => Argument.spells_part a
  exact ((((spells_ofAscii (by decide)).append hname).append (spells_ofAscii (by decide))).append
    harguments).append (spells_ofAscii (by decide))

/-- The text of a subscription, in its parts. -/
theorem render_subscribe (event : Text) :
    Json.render .unicode (.obj [("event", .str event), ("action", .str "subscribe")]) =
      ofString "\x7b\"event\":" ++ Json.quoted .unicode event ++
        ofString ",\"action\":\"subscribe\"\x7d" := by
  have hevent : Json.quoted .unicode (ofString "event") = ofString "\"event\"" := by decide
  have haction : Json.quoted .unicode (ofString "action") = ofString "\"action\"" := by decide
  have hsubscribe : Json.quoted .unicode (ofString "subscribe") = ofString "\"subscribe\"" := by
    decide
  rw [Json.render_obj, List.map_cons, List.map_cons, List.map_nil, joinWith_cons_cons,
    joinWith_singleton, Json.renderField, Json.renderField, Json.render_str, Json.render_str,
    hevent, haction, hsubscribe]
  simp [ofString, Json.comma]

/-- The payload of a subscription, from the bytes of its event. -/
theorem subscribe_bytes (event : Bytes) :
    (subscribe (decodeEscaping event)).payload =
      .ok (Bytes.ofAscii "\x7b\"event\":" ++ Bytes.quoted event ++
        Bytes.ofAscii ",\"action\":\"subscribe\"\x7d") := by
  refine encodeBody_of_spells ?_
  rw [render_subscribe]
  have hevent := Json.spells_quoted (spells_decodeEscaping event)
  exact ((spells_ofAscii (by decide)).append hevent).append (spells_ofAscii (by decide))

end Request

/-- **Raw bytes pass through a payload.** Whatever bytes a command, its arguments or an event
consist of, there is a payload, and it holds these bytes between quotes, escaped one by one; an
argument that is a number is written as one. No argument with a byte outside ASCII is a number. -/
theorem payload_of_raw :
    (∀ (name : Bytes) (arguments : List Bytes),
      (Request.runCommand (Utf8.decodeEscaping name) (arguments.map Utf8.decodeEscaping)).payload =
        .ok (Bytes.ofAscii "\x7b\"command\":" ++ Bytes.quoted name ++
          Bytes.ofAscii ",\"args\":[" ++
          (Bytes.ofAscii ",").intercalate (arguments.map Argument.part) ++
          Bytes.ofAscii "]\x7d")) ∧
    (∀ event : Bytes, (Request.subscribe (Utf8.decodeEscaping event)).payload =
      .ok (Bytes.ofAscii "\x7b\"event\":" ++ Bytes.quoted event ++
        Bytes.ofAscii ",\"action\":\"subscribe\"\x7d")) ∧
    (∀ raw : Bytes, (∃ b ∈ raw, 0x80 ≤ b.toNat) →
      Argument.classify maxDigits (Utf8.decodeEscaping raw) = .text (Utf8.decodeEscaping raw)) :=
  ⟨Request.runCommand_bytes, Request.subscribe_bytes,
    fun _ hhigh => Argument.classify_of_high hhigh maxDigits⟩

/-- A quote and bytes that are not UTF-8, in a name and behind a digit. -/
theorem payload_of_raw_stray :
    (Request.runCommand (Utf8.decodeEscaping [0x22, 0xFF])
        [Utf8.decodeEscaping [0x37], Utf8.decodeEscaping [0x37, 0xC3]]).payload =
      .ok (Bytes.ofAscii "\x7b\"command\":\"\\\"" ++ [0xFF] ++
        Bytes.ofAscii "\",\"args\":[7,\"7" ++ [0xC3] ++ Bytes.ofAscii "\"]\x7d") ∧
    (∃ b ∈ ([0x37, 0xC3] : Bytes), 0x80 ≤ b.toNat) ∧
    Argument.classify maxDigits (Utf8.decodeEscaping [0x37, 0xC3]) =
      .text (Utf8.decodeEscaping [0x37, 0xC3]) := by
  have hhigh : ∃ b ∈ ([0x37, 0xC3] : Bytes), 0x80 ≤ b.toNat := ⟨0xC3, by decide, by decide⟩
  refine ⟨?_, hhigh, payload_of_raw.2.2 [0x37, 0xC3] hhigh⟩
  have hbytes := payload_of_raw.1 [0x22, 0xFF] [[0x37], [0x37, 0xC3]]
  exact hbytes.trans (congrArg Except.ok (by decide +kernel))

end DwmIpc
