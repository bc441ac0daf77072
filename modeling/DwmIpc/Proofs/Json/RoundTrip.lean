import DwmIpc.Proofs.Json.Figures
import DwmIpc.Proofs.Json.Writing

/-!
# Documents are read back

`Readable` are the values that the limits of a reader admit: integers with few
enough digits, doubles that exist, few enough arrays and objects inside each other,
and no key twice in an object. What is written of such a value is read as the value
itself, to the last field and with numbers of each kind kept apart (`read_render`).

The reader takes a document from the front and leaves the rest, so each lemma is
about a document in front of any rest that does not go on with a number; the bound
on the fuel is the length of the document.
-/

namespace DwmIpc.Json

open Text Double

/-! ## Texts -/

/-- The only code point of a character's number is the character. -/
theorem eq_scalar_of_toNat {c : CodePoint} {char : Char} (h : c.toNat = char.toNat) :
    c = .scalar char := by
  cases c with
  | scalar d => exact congrArg CodePoint.scalar (Char.toNat_inj.1 h)
  | surrogate offset =>
    have hvalid := char.valid
    have := offset.isLt
    simp only [CodePoint.toNat, Char.toNat] at h
    simp only [UInt32.isValidChar, Nat.isValidChar] at hvalid
    omega

theorem ofNat_toNat {c : CodePoint} (h : c.toNat < 0x20) : CodePoint.ofNat c.toNat = c := by
  cases c with
  | scalar char =>
    have hsmall : ¬(0xD800 ≤ char.toNat ∧ char.toNat < 0xE000) := by
      simp only [CodePoint.toNat] at h
      omega
    rw [CodePoint.toNat, CodePoint.ofNat, dif_neg hsmall, Char.ofNat_toNat]
  | surrogate offset =>
    simp only [CodePoint.toNat] at h
    omega

/-- A hexadecimal digit is read as the number that it was written for. -/
theorem hexValue?_digitChar :
    ∀ k < 16, (CodePoint.scalar (Nat.digitChar k)).hexValue? = some k := by
  decide

/-- Four hexadecimal digits are read as the number. -/
theorem hex4?_hex {n : Nat} (h : n < 0x10000) :
    ∃ a b c d, Quoted.hex 4 n = [a, b, c, d] ∧ hex4? a b c d = some n := by
  refine ⟨_, _, _, _, rfl, ?_⟩
  have hdigit (k : Nat) := hexValue?_digitChar (k % 16) (Nat.mod_lt _ (by decide))
  simp only [hex4?, hdigit, Option.bind_eq_bind, Option.bind_some, Option.pure_def]
  congr 1
  omega

/-- An escape that names no half of a pair is complete. -/
theorem unicodeEscape?_single {a b c d : CodePoint} {n : Nat} (hn : hex4? a b c d = some n)
    (hsingle : (CodePoint.ofNat n).isHighSurrogate = false) (rest : Text) :
    unicodeEscape? (a :: b :: c :: d :: rest) = some (.ofNat n, 4) := by
  unfold unicodeEscape?
  simp only [hn]
  split
  next =>
    split
    next => rfl
    next => rw [hsingle, Bool.false_and, if_neg Bool.false_ne_true]
  next => rfl

/-- Characters that belong to an escape are passed over. -/
theorem readText_skip (skipped : Text) (done rest : Text) :
    readText skipped.length done (skipped ++ rest) = readText 0 done rest := by
  induction skipped with
  | nil => rfl
  | cons c more ih => rw [List.length_cons, List.cons_append, readText, ih]

/-- A code point has an escape of two characters, or of its number, or none. -/
theorem escape_cases (c : CodePoint) :
    (∃ char letter, c = .scalar char ∧ shortEscape? letter = some char ∧
      escape .unicode c = [.scalar '\\', .scalar letter]) ∨
    (c.toNat < 0x20 ∧ escape .unicode c = unicodeEscape c.toNat) ∨
    (c ≠ .scalar '"' ∧ c ≠ .scalar '\\' ∧ 0x20 ≤ c.toNat ∧ escape .unicode c = [c]) := by
  unfold escape
  simp only [or_true, if_true]
  split
  next h => exact .inl ⟨'"', '"', eq_scalar_of_toNat h, rfl, rfl⟩
  next hquote =>
    split
    next h => exact .inl ⟨'\\', '\\', eq_scalar_of_toNat h, rfl, rfl⟩
    next hbackslash =>
      split
      next h => exact .inl ⟨'\n', 'n', eq_scalar_of_toNat h, rfl, rfl⟩
      split
      next h => exact .inl ⟨'\r', 'r', eq_scalar_of_toNat h, rfl, rfl⟩
      split
      next h => exact .inl ⟨'\t', 't', eq_scalar_of_toNat h, rfl, rfl⟩
      split
      next h => exact .inl ⟨'\x08', 'b', eq_scalar_of_toNat h, rfl, rfl⟩
      split
      next h => exact .inl ⟨'\x0c', 'f', eq_scalar_of_toNat h, rfl, rfl⟩
      split
      next h => exact .inr (.inl ⟨h, rfl⟩)
      next h =>
        refine .inr (.inr ⟨?_, ?_, Nat.le_of_not_lt h, rfl⟩)
        · rintro rfl
          exact hquote rfl
        · rintro rfl
          exact hbackslash rfl

/-- A code point is read back from its escape. -/
theorem readText_escape (c : CodePoint) (done rest : Text) :
    readText 0 done (escape .unicode c ++ rest) = readText 0 (c :: done) rest := by
  obtain ⟨char, letter, rfl, hletter, hescape⟩ | ⟨hcontrol, hescape⟩ |
    ⟨hquote, hbackslash, hprintable, hescape⟩ := escape_cases c
  · have hnotu : letter ≠ 'u' := by
      rintro rfl
      cases hletter
    have hread : readEscape? (.scalar letter :: rest) = some (.scalar char, 1) := by
      unfold readEscape?
      split
      next h => exact absurd (CodePoint.scalar.inj (List.cons.inj h).1) hnotu
      next h =>
        obtain rfl := CodePoint.scalar.inj (List.cons.inj h).1
        rw [hletter]
        rfl
      next h => exact absurd rfl (h letter rest)
    rw [hescape, List.cons_append, readText, if_neg (by decide), if_pos rfl]
    simp only [List.cons_append, List.nil_append, hread, readText]
  · obtain ⟨a, b, d, e, hhex, hvalue⟩ := hex4?_hex (n := c.toNat) (by omega)
    have hsingle : (CodePoint.ofNat c.toNat).isHighSurrogate = false := by
      rw [CodePoint.ofNat, dif_neg (by omega)]
      rfl
    have hread : readEscape? (.scalar 'u' :: a :: b :: d :: e :: rest) = some (c, 5) := by
      rw [readEscape?, unicodeEscape?_single hvalue hsingle, ofNat_toNat hcontrol]
      rfl
    have hdigits := readText_skip [.scalar 'u', a, b, d, e] (c :: done) rest
    rw [hescape, unicodeEscape, hhex]
    show readText 0 done (.scalar '\\' :: .scalar 'u' :: a :: b :: d :: e :: rest) = _
    rw [readText, if_neg (by decide), if_pos rfl, hread]
    exact hdigits
  · rw [hescape, List.cons_append, List.nil_append, readText, if_neg hquote, if_neg hbackslash,
      if_neg (Nat.not_lt.2 hprintable)]

/-- A text is read back from between its quotes. -/
theorem readText_quoted (t done rest : Text) :
    readText 0 done (t.flatMap (escape .unicode) ++ .scalar '"' :: rest) =
      some (done.reverse ++ t, rest) := by
  induction t generalizing done with
  | nil => simp [readText]
  | cons c more ih =>
    rw [List.flatMap_cons, List.append_assoc, readText_escape, ih]
    simp

/-! ## Where a value starts -/

/-- Begins a document: an ASCII character that ends nothing and is no blank. -/
structure Begins (c : Char) : Prop where
  ascii : c.toNat < 0x80
  blank : isBlank (.scalar c) = false
  bracket : c ≠ ']'
  brace : c ≠ '\x7d'

/-- The text starts as a document does. -/
def Starts (t : Text) : Prop :=
  ∃ c more, t = .scalar c :: more ∧ Begins c

/-- There is no blank in front of a value. -/
theorem Starts.skipBlanks {t : Text} (h : Starts t) (rest : Text) :
    Json.skipBlanks (t ++ rest) = t ++ rest := by
  obtain ⟨c, more, rfl, hbegins⟩ := h
  exact List.dropWhile_cons_of_neg (by simpa using hbegins.blank)

theorem Starts.append {s : Text} (h : Starts s) (t : Text) : Starts (s ++ t) := by
  obtain ⟨c, more, rfl, hbegins⟩ := h
  exact ⟨c, more ++ t, rfl, hbegins⟩

theorem Starts.joinWith {part : Text} (h : Starts part) (separator : Text) (parts : List Text) :
    Starts (Text.joinWith separator (part :: parts)) := by
  cases parts with
  | nil => exact (joinWith_singleton separator part).symm ▸ h
  | cons next more =>
    rw [joinWith_cons_cons, List.append_assoc]
    exact h.append _

/-- A number begins with a digit, or with a minus sign and a digit. -/
def StartsNumber (t : Text) : Prop :=
  ∃ negative c more, t = sign negative ++ .scalar c :: more ∧ c.isDigit = true

theorem StartsNumber.starts {t : Text} (h : StartsNumber t) : Starts t := by
  obtain ⟨negative, c, more, rfl, hdigit⟩ := h
  cases negative with
  | true => exact ⟨'-', _, rfl, by decide, rfl, by decide, by decide⟩
  | false =>
    have hne (d : Char) (hd : d.isDigit = false) : c ≠ d := by
      rintro rfl
      rw [hdigit] at hd
      cases hd
    refine ⟨c, more, rfl, ?_, ?_, hne _ rfl, hne _ rfl⟩
    · simp only [Char.isDigit, Bool.and_eq_true, decide_eq_true_eq, ge_iff_le] at hdigit
      have hnine : c.toNat ≤ 57 := UInt32.le_iff_toNat_le.1 hdigit.2
      omega
    · simp [isBlank, hne ' ' rfl, hne '\t' rfl, hne '\n' rfl, hne '\r' rfl]

/-- No word begins like a number. -/
theorem StartsNumber.readWord? {t : Text} (h : StartsNumber t) (rest : Text) :
    Json.readWord? (t ++ rest) = none := by
  obtain ⟨negative, c, more, rfl, hdigit⟩ := h
  have hne (d : Char) (hd : d.isDigit = false) : ¬d = c := by
    rintro rfl
    rw [hdigit] at hd
    cases hd
  cases negative with
  | true =>
    simp [Json.readWord?, words, startsWith, ofString, sign, hne 'I' rfl]
  | false =>
    simp [Json.readWord?, words, startsWith, ofString, sign, hne 'n' rfl, hne 't' rfl,
      hne 'f' rfl, hne 'N' rfl, hne 'I' rfl, hne '-' rfl]

theorem startsNumber_characters (negative : Bool) {f : Figures} (h : f.Proper) :
    StartsNumber (sign negative ++ f.characters.map .scalar) := by
  obtain ⟨c, digits, hwhole⟩ := List.exists_cons_of_ne_nil h.nonempty
  refine ⟨negative, c, (digits ++ f.places ++ f.power).map .scalar, ?_, ?_⟩
  · simp [Figures.characters, hwhole]
  · exact h.whole c (by rw [hwhole]; exact List.mem_cons_self ..)

theorem startsNumber_ofInt (n : Int) : StartsNumber (Text.ofInt n) := by
  obtain ⟨c, digits, hdigits⟩ :=
    List.exists_cons_of_ne_nil (Nat.toDigits_ne_nil (b := 10) (n := n.natAbs))
  refine ⟨decide (n < 0), c, digits.map .scalar, ?_, ?_⟩
  · rw [ofInt_eq_sign, hdigits, List.map_cons]
  · exact allDigits_toDigits n.natAbs c (by rw [hdigits]; exact List.mem_cons_self ..)

/-- A finite double starts as numbers do. -/
theorem startsNumber_finite {negative : Bool} {m : Nat} (h : Representable m)
    (hfits : m < overflow) : StartsNumber (DecimalLayout.json.text (.finite negative m)) := by
  obtain ⟨f, htext, hproper, -⟩ := text_figures negative h hfits
  exact htext ▸ startsNumber_characters negative hproper

variable {limits : Limits}

/-- What starts as a number is read as one. -/
theorem readValue_number {t : Text} (h : StartsNumber t) (fuel depth : Nat) (rest : Text) :
    readValue limits (fuel + 1) depth (t ++ rest) = readNumber limits (t ++ rest) := by
  have hword := h.readWord? rest
  obtain ⟨negative, c, more, rfl, hdigit⟩ := h
  have hother (d : Char) (hd : d.isDigit = false) (hminus : d ≠ '-') (tail : Text) :
      sign negative ++ .scalar c :: more ++ rest ≠ .scalar d :: tail := by
    intro h
    cases negative with
    | true => exact hminus (CodePoint.scalar.inj (List.cons.inj h).1).symm
    | false =>
      obtain rfl := CodePoint.scalar.inj (List.cons.inj h).1
      rw [hdigit] at hd
      cases hd
  unfold readValue
  split
  next h => exact absurd h (hother '"' rfl (by decide) _)
  next h => exact absurd h (hother '[' rfl (by decide) _)
  next h => exact absurd h (hother '\x7b' rfl (by decide) _)
  next => rw [hword]

/-- A quoted text is read back. -/
theorem readValue_text (fuel depth : Nat) (t rest : Text) :
    readValue limits (fuel + 1) depth (quoted .unicode t ++ rest) = .ok (.str t, rest) := by
  have hquoted : quoted .unicode t ++ rest =
      .scalar '"' :: (t.flatMap (escape .unicode) ++ .scalar '"' :: rest) := by
    simp [quoted]
  rw [hquoted, readValue, readText_quoted]
  rfl

/-- A double is read back where its text ends. -/
theorem readValue_float {x : Double} (h : Genuine x) (fuel depth : Nat) {rest : Text}
    (hrest : EndsNumber rest) :
    readValue limits (fuel + 1) depth (DecimalLayout.json.text x ++ rest) =
      .ok (.float x, rest) := by
  cases h with
  | @finite negative m hrepresentable hfits =>
    rw [readValue_number (startsNumber_finite hrepresentable hfits),
      readNumber_double hrepresentable hfits hrest]
  | @infinite negative => cases negative <;> rfl
  | nan => rfl

/-! ## Values -/

/-- What the limits of a reader admit; `depth` more arrays and objects may be opened. -/
inductive Readable (limits : Limits) : (depth : Nat) → Json → Prop
  | null {depth : Nat} : Readable limits depth .null
  | bool {depth : Nat} {value : Bool} : Readable limits depth (.bool value)
  | int {depth : Nat} {n : Int} :
      (∀ limit, limits.digits = some limit → (Nat.toDigits 10 n.natAbs).length ≤ limit) →
      Readable limits depth (.int n)
  | float {depth : Nat} {x : Double} : Genuine x → Readable limits depth (.float x)
  | str {depth : Nat} {t : Text} : Readable limits depth (.str t)
  | arr {depth : Nat} {items : List Json} :
      (∀ item ∈ items, Readable limits depth item) → Readable limits (depth + 1) (.arr items)
  | obj {depth : Nat} {fields : List (Text × Json)} :
      (∀ field ∈ fields, Readable limits depth field.2) → (fields.map (·.1)).Nodup →
      Readable limits (depth + 1) (.obj fields)

/-- A value that can be read back starts as values do. -/
theorem Readable.starts {depth : Nat} {value : Json} (h : Readable limits depth value) :
    Starts (render .unicode value) := by
  cases h with
  | null => exact ⟨'n', _, rfl, by decide, rfl, by decide, by decide⟩
  | @bool _ value =>
    cases value with
    | true => exact ⟨'t', _, rfl, by decide, rfl, by decide, by decide⟩
    | false => exact ⟨'f', _, rfl, by decide, rfl, by decide, by decide⟩
  | int => exact render_int .unicode _ ▸ (startsNumber_ofInt _).starts
  | @float _ x hgenuine =>
    rw [render_float]
    cases hgenuine with
    | finite hrepresentable hfits => exact (startsNumber_finite hrepresentable hfits).starts
    | @infinite negative =>
      cases negative with
      | true => exact ⟨'-', _, rfl, by decide, rfl, by decide, by decide⟩
      | false => exact ⟨'I', _, rfl, by decide, rfl, by decide, by decide⟩
    | nan => exact ⟨'N', _, rfl, by decide, rfl, by decide, by decide⟩
  | str => exact render_str .unicode _ ▸ ⟨'"', _, rfl, by decide, rfl, by decide, by decide⟩
  | arr => exact render_arr .unicode _ ▸ ⟨'[', _, rfl, by decide, rfl, by decide, by decide⟩
  | obj => exact render_obj .unicode _ ▸ ⟨'\x7b', _, rfl, by decide, rfl, by decide, by decide⟩

/-- The value is read from its document, whatever follows that does not go on with a number. -/
def ReadsBack (limits : Limits) (depth : Nat) (value : Json) : Prop :=
  ∀ fuel rest, (render .unicode value).length ≤ fuel → EndsNumber rest →
    readValue limits fuel depth (render .unicode value ++ rest) = .ok (value, rest)

/-- A number ends in front of a character that does not go on with it. -/
theorem endsNumber_cons {c : Char} (h : continuesNumber c = false) (rest : Text) :
    EndsNumber (.scalar c :: rest) := by
  intro d hd
  obtain rfl : c = d := by simpa using hd
  exact h

variable {depth : Nat}

/-- Items are read up to the end of the array. -/
theorem readItems_append {items : List Json} (hsome : items ≠ [])
    (hstarts : ∀ item ∈ items, Starts (render .unicode item))
    (hback : ∀ item ∈ items, ReadsBack limits depth item) {fuel : Nat} (done : List Json)
    (rest : Text)
    (hfuel : (joinWith comma (items.map (render .unicode))).length < fuel) :
    readItems limits fuel depth done
        (joinWith comma (items.map (render .unicode)) ++ .scalar ']' :: rest) =
      .ok (.arr (done.reverse ++ items), rest) := by
  induction items generalizing fuel done with
  | nil => exact absurd rfl hsome
  | cons item more ih =>
    obtain ⟨fuel, rfl⟩ : ∃ less, fuel = less + 1 := ⟨fuel - 1, by omega⟩
    have hitem := hback item (List.mem_cons_self ..)
    cases more with
    | nil =>
      rw [List.map_cons, List.map_nil, joinWith_singleton] at hfuel ⊢
      rw [readItems, hitem fuel _ (by omega) (endsNumber_cons rfl _)]
      simp [skipBlanks, isBlank]
    | cons next more =>
      rw [List.map_cons, List.map_cons, joinWith_cons_cons, ← List.map_cons] at hfuel ⊢
      have hlength : comma.length = 1 := rfl
      rw [List.length_append, List.length_append, hlength] at hfuel
      have hnext := (hstarts next (by simp)).joinWith comma (more.map (render .unicode))
      rw [← List.map_cons] at hnext
      have hcomma (t : Text) : render .unicode item ++ comma ++ t ++ .scalar ']' :: rest =
          render .unicode item ++ .scalar ',' :: (t ++ .scalar ']' :: rest) := by
        simp [comma]
      rw [hcomma, readItems, hitem fuel _ (by omega) (endsNumber_cons rfl _)]
      show readItems limits fuel depth (item :: done) (skipBlanks _) = _
      rw [hnext.skipBlanks, ih (List.cons_ne_nil _ _)
        (fun i hi => hstarts i (List.mem_cons_of_mem _ hi))
        (fun i hi => hback i (List.mem_cons_of_mem _ hi)) _ (by omega)]
      simp

/-- A new key is put in front. -/
theorem assign_new {done : List (Text × Json)} {key : Text} (h : key ∉ done.map (·.1))
    (value : Json) : assign done key value = (key, value) :: done := by
  have hnone : done.any (·.1 == key) = false := by
    rw [List.any_eq_false]
    intro field hfield hkey
    exact h (List.mem_map.2 ⟨field, hfield, eq_of_beq hkey⟩)
  rw [assign, hnone, if_neg Bool.false_ne_true]

theorem starts_field (field : Text × Json) : Starts (renderField .unicode field) :=
  ⟨'"', _, rfl, by decide, rfl, by decide, by decide⟩

/-- A key and its value are read one after the other. -/
theorem readFields_field {key : Text} {value : Json} (hstarts : Starts (render .unicode value))
    (hback : ReadsBack limits depth value) {fuel : Nat}
    (hfuel : (renderField .unicode (key, value)).length ≤ fuel) (done : List (Text × Json))
    {rest : Text} (hrest : EndsNumber rest) :
    readFields limits (fuel + 1) depth done (renderField .unicode (key, value) ++ rest) =
      match skipBlanks rest with
      | .scalar '\x7d' :: rest => .ok (.obj (assign done key value).reverse, rest)
      | .scalar ',' :: rest =>
        readFields limits fuel depth (assign done key value) (skipBlanks rest)
      | _ => .error .malformed := by
  have hfield : renderField .unicode (key, value) ++ rest =
      .scalar '"' :: (key.flatMap (escape .unicode) ++
        .scalar '"' :: (.scalar ':' :: (render .unicode value ++ rest))) := by
    simp [renderField, quoted]
  have hlength : (render .unicode value).length ≤ fuel := by
    simp only [renderField, List.length_append, List.length_cons] at hfuel
    omega
  have hread : readValue limits fuel depth (skipBlanks (render .unicode value ++ rest)) =
      .ok (value, rest) := by
    rw [hstarts.skipBlanks]
    exact hback fuel rest hlength hrest
  have hcolon (t : Text) : skipBlanks (.scalar ':' :: t) = .scalar ':' :: t := rfl
  rw [hfield, readFields, readText_quoted]
  simp only [hcolon, hread]
  rfl

/-- Fields are read up to the end of the object. -/
theorem readFields_append {fields : List (Text × Json)} (hsome : fields ≠ [])
    (hstarts : ∀ field ∈ fields, Starts (render .unicode field.2))
    (hback : ∀ field ∈ fields, ReadsBack limits depth field.2) {fuel : Nat}
    (done : List (Text × Json)) (hkeys : ((done.reverse ++ fields).map (·.1)).Nodup) (rest : Text)
    (hfuel : (joinWith comma (fields.map (renderField .unicode))).length < fuel) :
    readFields limits fuel depth done
        (joinWith comma (fields.map (renderField .unicode)) ++ .scalar '\x7d' :: rest) =
      .ok (.obj (done.reverse ++ fields), rest) := by
  induction fields generalizing fuel done with
  | nil => exact absurd rfl hsome
  | cons field more ih =>
    obtain ⟨key, value⟩ := field
    obtain ⟨fuel, rfl⟩ : ∃ less, fuel = less + 1 := ⟨fuel - 1, by omega⟩
    have hvalue : ReadsBack limits depth value := hback (key, value) (List.mem_cons_self ..)
    have hstart : Starts (render .unicode value) := hstarts (key, value) (List.mem_cons_self ..)
    have hnew (value : Json) : assign done key value = (key, value) :: done := by
      refine assign_new (fun hmem => ?_) value
      rw [List.map_append, List.nodup_append] at hkeys
      refine hkeys.2.2 key ?_ key (by simp) rfl
      rw [List.map_reverse]
      exact List.mem_reverse.2 hmem
    cases more with
    | nil =>
      rw [List.map_cons, List.map_nil, joinWith_singleton] at hfuel ⊢
      rw [readFields_field hstart hvalue (by omega) _ (endsNumber_cons rfl _), hnew]
      simp [skipBlanks, isBlank]
    | cons next more =>
      rw [List.map_cons, List.map_cons, joinWith_cons_cons, ← List.map_cons] at hfuel ⊢
      have hlength : comma.length = 1 := rfl
      rw [List.length_append, List.length_append, hlength] at hfuel
      have hnext := (starts_field next).joinWith comma (more.map (renderField .unicode))
      rw [← List.map_cons] at hnext
      have hcomma (t : Text) :
          renderField .unicode (key, value) ++ comma ++ t ++ .scalar '\x7d' :: rest =
            renderField .unicode (key, value) ++ .scalar ',' :: (t ++ .scalar '\x7d' :: rest) := by
        simp [comma]
      rw [hcomma, readFields_field hstart hvalue (by omega) _ (endsNumber_cons rfl _), hnew]
      show readFields limits fuel depth ((key, value) :: done) (skipBlanks _) = _
      rw [hnext.skipBlanks, ih (List.cons_ne_nil _ _)
        (fun f hf => hstarts f (List.mem_cons_of_mem _ hf))
        (fun f hf => hback f (List.mem_cons_of_mem _ hf)) _ ?_ (by omega)]
      · simp
      · simpa using hkeys

/-- A value is not taken for the end of a list. -/
theorem Starts.ne_bracket {t : Text} (h : Starts t) (rest more : Text) :
    t ++ rest ≠ .scalar ']' :: more := by
  obtain ⟨c, tail, rfl, hbegins⟩ := h
  exact fun hfirst => hbegins.bracket (CodePoint.scalar.inj (List.cons.inj hfirst).1)

/-- Nor for the end of an object. -/
theorem Starts.ne_brace {t : Text} (h : Starts t) (rest more : Text) :
    t ++ rest ≠ .scalar '\x7d' :: more := by
  obtain ⟨c, tail, rfl, hbegins⟩ := h
  exact fun hfirst => hbegins.brace (CodePoint.scalar.inj (List.cons.inj hfirst).1)

/-- An array is read back if its items are. -/
theorem readValue_arr {items : List Json} (hstarts : ∀ item ∈ items, Starts (render .unicode item))
    (hback : ∀ item ∈ items, ReadsBack limits depth item) {fuel : Nat} {rest : Text}
    (hfuel : (render .unicode (.arr items)).length ≤ fuel + 1) :
    readValue limits (fuel + 1) (depth + 1) (render .unicode (.arr items) ++ rest) =
      .ok (.arr items, rest) := by
  have hopen : render .unicode (.arr items) ++ rest = .scalar '[' ::
      (joinWith comma (items.map (render .unicode)) ++ .scalar ']' :: rest) := by
    simp [render_arr]
  rw [hopen, readValue]
  cases items with
  | nil => rfl
  | cons item more =>
    have hfirst := (hstarts item (List.mem_cons_self ..)).joinWith comma
      (more.map (render .unicode))
    rw [← List.map_cons] at hfirst
    rw [render_arr, List.length_cons, List.length_append, List.length_singleton] at hfuel
    rw [hfirst.skipBlanks]
    split
    next h => exact absurd h (hfirst.ne_bracket _ _)
    next => exact readItems_append (List.cons_ne_nil _ _) hstarts hback [] rest (by omega)

/-- An object is read back if its values are. -/
theorem readValue_obj {fields : List (Text × Json)}
    (hstarts : ∀ field ∈ fields, Starts (render .unicode field.2))
    (hback : ∀ field ∈ fields, ReadsBack limits depth field.2) (hkeys : (fields.map (·.1)).Nodup)
    {fuel : Nat} {rest : Text} (hfuel : (render .unicode (.obj fields)).length ≤ fuel + 1) :
    readValue limits (fuel + 1) (depth + 1) (render .unicode (.obj fields) ++ rest) =
      .ok (.obj fields, rest) := by
  have hopen : render .unicode (.obj fields) ++ rest = .scalar '\x7b' ::
      (joinWith comma (fields.map (renderField .unicode)) ++ .scalar '\x7d' :: rest) := by
    simp [render_obj]
  rw [hopen, readValue]
  cases fields with
  | nil => rfl
  | cons field more =>
    have hfirst := (starts_field field).joinWith comma (more.map (renderField .unicode))
    rw [← List.map_cons] at hfirst
    rw [render_obj, List.length_cons, List.length_append, List.length_singleton] at hfuel
    rw [hfirst.skipBlanks]
    split
    next h => exact absurd h (hfirst.ne_brace _ _)
    next => exact readFields_append (List.cons_ne_nil _ _) hstarts hback [] hkeys rest (by omega)

/-- There is fuel for the first step, since no document is empty. -/
theorem Readable.readsBack_of_step {value : Json} (h : Readable limits depth value)
    (hstep : ∀ fuel rest, (render .unicode value).length ≤ fuel + 1 → EndsNumber rest →
      readValue limits (fuel + 1) depth (render .unicode value ++ rest) = .ok (value, rest)) :
    ReadsBack limits depth value := by
  intro fuel rest hfuel hrest
  obtain ⟨c, more, hstart, -⟩ := h.starts
  obtain ⟨less, rfl⟩ : ∃ less, fuel = less + 1 := by
    rw [hstart, List.length_cons] at hfuel
    exact ⟨fuel - 1, by omega⟩
  exact hstep less rest hfuel hrest

/-- **A value is read back from its document.** -/
theorem Readable.readsBack {value : Json} (h : Readable limits depth value) :
    ReadsBack limits depth value := by
  induction h with
  | null => exact readsBack_of_step .null fun _ _ _ _ => rfl
  | @bool _ value => exact readsBack_of_step .bool fun _ _ _ _ => by cases value <;> rfl
  | int hfew =>
    refine readsBack_of_step (.int hfew) fun fuel rest _ hrest => ?_
    rw [render_int, readValue_number (startsNumber_ofInt _), readNumber_ofInt hfew hrest]
  | float hgenuine =>
    refine readsBack_of_step (.float hgenuine) fun fuel rest _ hrest => ?_
    rw [render_float, readValue_float hgenuine _ _ hrest]
  | str =>
    refine readsBack_of_step .str fun fuel rest _ _ => ?_
    rw [render_str, readValue_text]
  | arr hitems ih =>
    refine readsBack_of_step (.arr hitems) fun fuel rest hfuel _ => ?_
    exact readValue_arr (fun item hitem => (hitems item hitem).starts) ih hfuel
  | obj hfields hkeys ih =>
    refine readsBack_of_step (.obj hfields hkeys) fun fuel rest hfuel _ => ?_
    exact readValue_obj (fun field hfield => (hfields field hfield).starts) ih hkeys hfuel

/-- The document as a whole is the value. -/
theorem read_render {value : Json} (h : Readable limits limits.depth value) :
    read limits (render .unicode value) = .ok value := by
  have hback := h.readsBack (2 * (render .unicode value).length + 1) [] (by omega)
    (fun _ hnone => nomatch hnone)
  have hstart := h.starts.skipBlanks []
  rw [List.append_nil] at hback hstart
  rw [read, hstart, hback]
  rfl

end DwmIpc.Json
