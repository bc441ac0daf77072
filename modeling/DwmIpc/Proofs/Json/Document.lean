import DwmIpc.Json.Document
import DwmIpc.Proofs.Json.RoundTrip
import DwmIpc.Proofs.Utf8
import DwmIpc.Request

/-!
# Documents as bytes are read back

Which encoding the bytes of a document are in is guessed from the zeros among them.
A document that is written as UTF-8 starts with an ASCII character and holds no zero
byte, controls being escaped, so the guess is right (`detectEncoding_ascii`), and a
value that the reader's limits admit and whose texts consist of characters comes
back from its bytes (`readBytes_encodeBody`).
-/

namespace DwmIpc

/-! ## Texts of characters -/

namespace Text

/-- Only characters. -/
def Characters (t : Text) : Prop :=
  ∀ c ∈ t, ∃ char, c = .scalar char

/-- Only characters, and none of them is NUL. -/
def Clean (t : Text) : Prop :=
  ∀ c ∈ t, ∃ char, c = .scalar char ∧ char ≠ '\x00'

theorem characters_ofString (s : String) : Characters (ofString s) := by
  intro c hc
  obtain ⟨char, -, rfl⟩ := List.mem_map.1 hc
  exact ⟨char, rfl⟩

namespace Clean

theorem nil : Clean [] :=
  fun _ hc => absurd hc List.not_mem_nil

theorem append {s t : Text} (hs : Clean s) (ht : Clean t) : Clean (s ++ t) := by
  intro c hc
  rcases List.mem_append.1 hc with h | h
  · exact hs c h
  · exact ht c h

theorem cons {char : Char} {t : Text} (hchar : char ≠ '\x00') (ht : Clean t) :
    Clean (.scalar char :: t) := by
  intro c hc
  rcases List.mem_cons.1 hc with rfl | h
  · exact ⟨char, rfl, hchar⟩
  · exact ht c h

/-- Digits are no zeros: their code points start at 48. -/
theorem digits {s : List Char} (hs : AllDigits s) : Clean (s.map .scalar) := by
  intro c hc
  obtain ⟨char, hchar, rfl⟩ := List.mem_map.1 hc
  refine ⟨char, rfl, ?_⟩
  rintro rfl
  cases hs _ hchar

theorem joinWith {separator : Text} (hseparator : Clean separator) {parts : List Text}
    (hparts : ∀ part ∈ parts, Clean part) : Clean (Text.joinWith separator parts) := by
  induction parts with
  | nil => exact nil
  | cons part more ih =>
    have hfirst := hparts part (List.mem_cons_self ..)
    cases more with
    | nil => exact (joinWith_singleton separator part).symm ▸ hfirst
    | cons next more =>
      rw [joinWith_cons_cons]
      exact (hfirst.append hseparator).append (ih fun p hp => hparts p (List.mem_cons_of_mem _ hp))

/-- A clean text is a list of characters. -/
theorem exists_map {t : Text} (h : Clean t) : ∃ s : List Char, t = s.map .scalar ∧ '\x00' ∉ s := by
  induction t with
  | nil => exact ⟨[], rfl, List.not_mem_nil⟩
  | cons c more ih =>
    obtain ⟨char, rfl, hchar⟩ := h c (List.mem_cons_self ..)
    obtain ⟨s, rfl, hs⟩ := ih fun d hd => h d (List.mem_cons_of_mem _ hd)
    refine ⟨char :: s, rfl, fun hmem => ?_⟩
    rcases List.mem_cons.1 hmem with hfirst | hrest
    · exact hchar hfirst.symm
    · exact hs hrest

end Clean

end Text

namespace Json

open Text Double

/-! ## What is written holds no NUL -/

theorem clean_hex (width n : Nat) : Clean (Quoted.hex width n) := by
  induction width generalizing n with
  | zero => exact .nil
  | succ width ih =>
    refine (ih _).append (.cons ?_ .nil)
    have hdigit : ∀ k < 16, Nat.digitChar k ≠ '\x00' := by decide
    exact hdigit _ (Nat.mod_lt _ (by decide))

/-- A zero is escaped, so that no character is written as one. -/
theorem clean_escape (char : Char) : Clean (escape .unicode (.scalar char)) := by
  obtain ⟨_, letter, _, hletter, hescape⟩ | ⟨-, hescape⟩ | ⟨-, -, hprintable, hescape⟩ :=
    escape_cases (.scalar char)
  · rw [hescape]
    refine .cons (by decide) (.cons ?_ .nil)
    rintro rfl
    cases hletter
  · rw [hescape]
    exact .cons (by decide) (.cons (by decide) (clean_hex 4 _))
  · rw [hescape]
    refine .cons ?_ .nil
    rintro rfl
    exact absurd hprintable (by decide)

/-- A quoted text holds no zero, whatever the text holds. -/
theorem clean_quoted {t : Text} (h : Characters t) : Clean (quoted .unicode t) := by
  refine .cons (by decide) (Clean.append ?_ (.cons (by decide) .nil))
  intro c hc
  obtain ⟨d, hd, hescape⟩ := List.mem_flatMap.1 hc
  obtain ⟨char, rfl⟩ := h d hd
  exact clean_escape char c hescape

theorem clean_sign (negative : Bool) : Clean (sign negative) := by
  cases negative with
  | true => exact .cons (by decide) .nil
  | false => exact .nil

/-- Figures are written without zeros. -/
theorem clean_characters {f : Figures} (h : f.Proper) : Clean (f.characters.map .scalar) := by
  intro c hc
  obtain ⟨char, hchar, rfl⟩ := List.mem_map.1 hc
  refine ⟨char, rfl, ?_⟩
  rintro rfl
  rcases Figures.mem_characters h hchar with hdigit | hmark
  · cases hdigit
  · exact absurd hmark (by decide)

theorem clean_word {s : String} (h : '\x00' ∉ s.toList) : Clean (ofString s) := by
  intro c hc
  obtain ⟨char, hchar, rfl⟩ := List.mem_map.1 hc
  exact ⟨char, rfl, fun hnul => h (hnul ▸ hchar)⟩

theorem clean_double {x : Double} (h : Genuine x) : Clean (DecimalLayout.json.text x) := by
  cases h with
  | @finite negative _ hrepresentable hfits =>
    obtain ⟨f, htext, hproper, -⟩ := text_figures negative hrepresentable hfits
    rw [htext]
    exact (clean_sign negative).append (clean_characters hproper)
  | @infinite negative =>
    refine Clean.append ?_ (clean_word (by decide))
    cases negative <;> exact clean_word (by decide)
  | nan => exact clean_word (by decide)

/-- All texts of the value consist of characters. -/
inductive IsUnicode : Json → Prop
  | null : IsUnicode .null
  | bool {value : Bool} : IsUnicode (.bool value)
  | int {n : Int} : IsUnicode (.int n)
  | float {x : Double} : IsUnicode (.float x)
  | str {t : Text} : Characters t → IsUnicode (.str t)
  | arr {items : List Json} : (∀ item ∈ items, IsUnicode item) → IsUnicode (.arr items)
  | obj {fields : List (Text × Json)} :
      (∀ field ∈ fields, Characters field.1) → (∀ field ∈ fields, IsUnicode field.2) →
      IsUnicode (.obj fields)

theorem clean_comma : Clean comma :=
  .cons (by decide) .nil

variable {limits : Limits} {depth : Nat} {value : Json}

/-- A value is written without zeros. -/
theorem clean_render (h : Readable limits depth value) (hunicode : IsUnicode value) :
    Clean (render .unicode value) := by
  induction h with
  | null => exact clean_word (s := "null") (by decide)
  | @bool _ value =>
    cases value with
    | true => exact clean_word (s := "true") (by decide)
    | false => exact clean_word (s := "false") (by decide)
  | @int _ n =>
    rw [render_int, ofInt_eq_sign]
    exact (clean_sign _).append (.digits (allDigits_toDigits _))
  | float hgenuine =>
    rw [render_float]
    exact clean_double hgenuine
  | str =>
    rw [render_str]
    cases hunicode with
    | str ht => exact clean_quoted ht
  | @arr _ items _ ih =>
    rw [render_arr]
    cases hunicode with
    | arr hall =>
      refine .cons (by decide) (Clean.append (.joinWith clean_comma ?_) (.cons (by decide) .nil))
      intro part hpart
      obtain ⟨item, hitem, rfl⟩ := List.mem_map.1 hpart
      exact ih item hitem (hall item hitem)
  | @obj _ fields _ _ ih =>
    rw [render_obj]
    cases hunicode with
    | obj hkeys hvalues =>
      refine .cons (by decide) (Clean.append (.joinWith clean_comma ?_) (.cons (by decide) .nil))
      intro part hpart
      obtain ⟨field, hfield, rfl⟩ := List.mem_map.1 hpart
      refine (clean_quoted (hkeys field hfield)).append (.cons (by decide) ?_)
      exact ih field hfield (hvalues field hfield)

/-! ## The encoding that is guessed -/

/-- Bytes that start like ASCII and hold no zero are taken for UTF-8. -/
theorem detectEncoding_ascii {byte : UInt8} {rest : Bytes} (hascii : byte.toNat < 0x80)
    (hzero : ∀ b ∈ byte :: rest, b ≠ 0) :
    detectEncoding (byte :: rest) = (.utf8, byte :: rest) := by
  have hfirst (b : UInt8) (tail : Bytes) (h : byte :: rest = b :: tail) :
      b.toNat < 0x80 ∧ b ≠ 0 := by
    obtain rfl := (List.cons.inj h).1
    exact ⟨hascii, hzero byte (List.mem_cons_self ..)⟩
  have hsecond (b : UInt8) (tail : Bytes) (h : rest = b :: tail) : b ≠ 0 :=
    hzero b (h ▸ List.mem_cons_of_mem _ (List.mem_cons_self ..))
  have hguess : encodingByZeros (byte :: rest) = .utf8 := by
    have hnonzero : byte ≠ 0 := hzero byte (List.mem_cons_self ..)
    unfold encodingByZeros
    split
    next b c d more h =>
      obtain ⟨rfl, hrest⟩ := List.cons.inj h
      rw [if_neg hnonzero, if_neg (hsecond _ _ hrest)]
    next b h =>
      obtain ⟨rfl, hrest⟩ := List.cons.inj h
      rw [if_neg hnonzero, if_neg (hsecond _ _ hrest)]
    next => rfl
  unfold detectEncoding
  split
  next h => exact absurd rfl (hfirst _ _ h).2
  next h => exact absurd (hfirst _ _ h).1 (by decide)
  next h => exact absurd (hfirst _ _ h).1 (by decide)
  next h => exact absurd (hfirst _ _ h).1 (by decide)
  next h => exact absurd (hfirst _ _ h).1 (by decide)
  next => rw [hguess]

/-- A character below 128 is encoded as one byte. -/
theorem encodeChar_ascii {c : Char} (h : c.toNat < 0x80) :
    Utf8.encodeChar c = [UInt8.ofNat c.toNat] := by
  rw [Utf8.encodeChar, Utf8.encodeNat, if_pos h]

/-- Only the zero is encoded with a zero byte. -/
theorem zero_notMem_encodeChar {c : Char} (h : c ≠ '\x00') : ∀ b ∈ Utf8.encodeChar c, b ≠ 0 := by
  have hnumber : c.toNat ≠ 0 := fun hzero => h (Char.toNat_inj.1 hzero)
  have hvalid := Utf8.toNat_valid c
  have hbyte (n : Nat) (hpositive : 0 < n) (hsmall : n < 256) : UInt8.ofNat n ≠ 0 := by
    intro hzero
    have hnothing : (UInt8.ofNat n).toNat = 0 := congrArg UInt8.toNat hzero
    rw [UInt8.toNat_ofNat'] at hnothing
    omega
  intro b hb
  unfold Utf8.encodeChar Utf8.encodeNat at hb
  split at hb
  · obtain rfl := List.mem_singleton.1 hb
    exact hbyte _ (by omega) (by omega)
  · split at hb
    · simp only [List.mem_cons, List.not_mem_nil, or_false] at hb
      rcases hb with rfl | rfl <;> exact hbyte _ (by omega) (by omega)
    · split at hb
      · simp only [List.mem_cons, List.not_mem_nil, or_false] at hb
        rcases hb with rfl | rfl | rfl <;> exact hbyte _ (by omega) (by omega)
      · simp only [List.mem_cons, List.not_mem_nil, or_false] at hb
        rcases hb with rfl | rfl | rfl | rfl <;> exact hbyte _ (by omega) (by omega)

/-! ## There and back -/

/-- A clean text that starts like a document is read from its bytes. -/
theorem decode?_encode {s : List Char} (hstarts : Starts (s.map .scalar)) (hclean : '\x00' ∉ s) :
    decode? (s.flatMap Utf8.encodeChar) = some (s.map .scalar) := by
  obtain ⟨c, more, hfirst, hbegins⟩ := hstarts
  cases s with
  | nil => cases hfirst
  | cons d s =>
    obtain rfl := CodePoint.scalar.inj (List.cons.inj hfirst).1
    have hzero : ∀ b ∈ (d :: s).flatMap Utf8.encodeChar, b ≠ 0 := by
      intro b hb
      obtain ⟨e, he, hbyte⟩ := List.mem_flatMap.1 hb
      refine zero_notMem_encodeChar ?_ b hbyte
      rintro rfl
      exact hclean he
    have hascii := encodeChar_ascii hbegins.ascii
    rw [List.flatMap_cons, hascii, List.singleton_append] at hzero
    have hbyte : (UInt8.ofNat d.toNat).toNat < 0x80 := by
      have hsmall := hbegins.ascii
      rw [UInt8.toNat_ofNat']
      omega
    have hdetect := detectEncoding_ascii hbyte hzero
    have hdecode := Utf8.decodeSurrogates?_encode (d :: s)
    rw [List.flatMap_cons, hascii, List.singleton_append] at hdecode ⊢
    rw [decode?, hdetect]
    exact hdecode

/-- **A value is read back from its bytes.** -/
theorem readBytes_encodeBody (h : Readable documentLimits documentLimits.depth value)
    (hunicode : IsUnicode value) :
    ∃ bytes, Request.encodeBody value = .ok bytes ∧ readBytes bytes = .ok value := by
  have hread := read_render h
  have hstarts := h.starts
  obtain ⟨s, hs, hnul⟩ := (clean_render h hunicode).exists_map
  rw [hs] at hread hstarts
  refine ⟨s.flatMap Utf8.encodeChar, ?_, ?_⟩
  · rw [Request.encodeBody, hs, Utf8.encodeEscaping_of_spells (Utf8.spells_scalars s)]
  · rw [readBytes, decode?_encode hstarts hnul]
    exact hread

end Json

end DwmIpc
