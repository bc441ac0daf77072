import DwmIpc.Number.Numeral
import DwmIpc.Proofs.Integers
import Mathlib.Data.List.Basic
import Mathlib.Data.List.TakeWhile

/-!
# Decimal numbers among the arguments

A `PlainDecimal` is a number as it is spelled: a minus sign or none, the digits before a
point and those behind it. `Text.LooksDecimal` tells its texts by their points and
their ends, without a word on its parts. Both say what `Text.isFloat` does
(`PlainDecimal.exists_text`, `PlainDecimal.looksDecimal_text`, `Text.LooksDecimal.isFloat`).

The readers of numbers know blanks, exponents and the digits of all scripts, which no
such text has. They find just its parts (`Numeral.double?_text`,
`Numeral.integer_of_denotes`), so that no argument makes them fail
(`Argument.read?_eq_classify`).
-/

namespace DwmIpc

open Text

/-! ## Two shapes -/

/-- A decimal number as it is spelled. Digits before the point are missing only behind a minus. -/
structure PlainDecimal where
  negative : Bool
  whole : List Char
  fraction : List Char
  whole_digits : AllDigits whole
  fraction_digits : AllDigits fraction
  nonempty : whole ≠ [] ∨ negative = true ∧ fraction ≠ []

/-- Digits and points stand in the text, behind at most one minus sign; at least one digit and at
most one point, which neither begins nor ends the text. -/
structure Text.LooksDecimal (t : Text) : Prop where
  plain : ∀ c ∈ t.withoutMinus, c.isDigit = true ∨ c = .scalar '.'
  digit : ∃ c ∈ t.withoutMinus, c.isDigit = true
  point : t.withoutMinus.count (.scalar '.') ≤ 1
  first : t.head? ≠ some (.scalar '.')
  last : t.getLast? ≠ some (.scalar '.')

namespace Text

variable {t : Text} {figures : List Char}

/-- A text is its sign and what is behind the sign. -/
theorem sign_append_withoutMinus (t : Text) : t = Json.sign t.hasMinus ++ t.withoutMinus := by
  cases hsign : t.hasMinus with
  | false => exact (withoutMinus_of_hasMinus hsign).symm
  | true =>
    obtain ⟨rest, rfl⟩ : ∃ rest, t = .scalar '-' :: rest :=
      List.head?_eq_some_iff.1 (eq_of_beq hsign)
    rfl

theorem isDigit_of_mem (hdigits : AllDigits figures) {c : CodePoint}
    (hc : c ∈ figures.map .scalar) : c.isDigit = true := by
  obtain ⟨char, hchar, rfl⟩ := List.mem_map.1 hc
  exact hdigits char hchar

theorem point_not_mem (hdigits : AllDigits figures) :
    CodePoint.scalar '.' ∉ figures.map CodePoint.scalar :=
  fun hmem => absurd (isDigit_of_mem hdigits hmem) (by decide)

theorem head?_ne_point (hdigits : AllDigits figures) (hne : figures ≠ []) (rest : Text) :
    (figures.map CodePoint.scalar ++ rest).head? ≠ some (.scalar '.') := by
  cases figures with
  | nil => exact absurd rfl hne
  | cons c more =>
    intro h
    exact point_not_mem hdigits (Option.some.inj h ▸ List.mem_cons_self ..)

theorem getLast?_ne_point (hdigits : AllDigits figures) (hne : figures ≠ []) (front : Text) :
    (front ++ figures.map CodePoint.scalar).getLast? ≠ some (.scalar '.') := by
  obtain ⟨more, c, rfl⟩ := (List.eq_nil_or_concat figures).resolve_left hne
  rw [List.concat_eq_append] at hdigits ⊢
  rw [List.map_append, List.map_singleton, ← List.append_assoc, List.getLast?_concat]
  intro h
  exact point_not_mem hdigits
    (List.mem_map.2 ⟨c, List.mem_concat_self, Option.some.inj h⟩)

/-- Whoever looks decimal is digits, or digits with a point among them. -/
theorem LooksDecimal.isFloat (h : t.LooksDecimal) : t.isFloat = true := by
  have hsplit : t.withoutMinus.takeWhile CodePoint.isDigit ++ afterDigits t.withoutMinus =
      t.withoutMinus := List.takeWhile_append_dropWhile
  have hstop := List.head?_dropWhile_not CodePoint.isDigit t.withoutMinus
  rw [← afterDigits] at hstop
  unfold Text.isFloat
  dsimp only
  cases hrest : afterDigits t.withoutMinus with
  | nil =>
    obtain ⟨c, hc, -⟩ := h.digit
    cases hbody : t.withoutMinus with
    | nil => exact absurd (hbody ▸ hc) List.not_mem_nil
    | cons _ _ => rfl
  | cons c fraction =>
    rw [hrest] at hsplit hstop
    have hbehind {e : CodePoint} (he : e ∈ c :: fraction) : e ∈ t.withoutMinus :=
      hsplit ▸ List.mem_append_right _ he
    obtain rfl : c = .scalar '.' :=
      (h.plain c (hbehind (List.mem_cons_self ..))).resolve_left (Bool.eq_false_iff.1 hstop)
    have hsecond : .scalar '.' ∉ fraction := by
      intro hpoint
      have hcount := h.point
      rw [← hsplit, List.count_append, List.count_cons_self] at hcount
      have hpositive := List.count_pos_iff.2 hpoint
      omega
    have hdigits : ∀ e ∈ fraction, e.isDigit = true := fun e he =>
      (h.plain e (hbehind (List.mem_cons_of_mem _ he))).resolve_right fun hpoint =>
        hsecond (hpoint ▸ he)
    have hne : fraction ≠ [] := by
      rintro rfl
      refine h.last ?_
      rw [sign_append_withoutMinus t, ← hsplit, ← List.append_assoc]
      exact List.getLast?_concat
    obtain ⟨figures, hall, rfl⟩ := exists_figures hdigits
    have hfigures : figures ≠ [] := fun hnil => hne (hnil ▸ rfl)
    exact Bool.and_eq_true_iff.2
      ⟨isUnsignedInt_iff.2 ⟨figures, hfigures, hall, rfl⟩, bne_iff_ne.2 h.first⟩

end Text

namespace PlainDecimal

variable (d : PlainDecimal)

/-- The parts of the number. -/
def figures : Json.Figures := ⟨d.whole, d.fraction, none⟩

/-- The number as a text. -/
def text : Text := Json.sign d.negative ++ d.figures.characters.map .scalar

theorem characters_eq : d.figures.characters = d.whole ++ d.figures.places :=
  List.append_nil _

/-- The places are the point and the fraction, unless there is no fraction. -/
theorem places_cases : d.fraction = [] ∧ d.figures.places = [] ∨
    d.fraction ≠ [] ∧ d.figures.places = '.' :: d.fraction := by
  by_cases hnil : d.fraction = []
  · exact .inl ⟨hnil, if_pos hnil⟩
  · exact .inr ⟨hnil, if_neg hnil⟩

theorem isDigit_or_point {c : Char} (hc : c ∈ d.figures.characters) :
    c.isDigit = true ∨ c = '.' := by
  rw [characters_eq, List.mem_append] at hc
  rcases hc with hwhole | hplaces
  · exact .inl (d.whole_digits c hwhole)
  · rcases d.places_cases with ⟨-, hnone⟩ | ⟨-, hsome⟩
    · exact absurd (hnone ▸ hplaces) List.not_mem_nil
    · rw [hsome, List.mem_cons] at hplaces
      exact hplaces.symm.imp_left (d.fraction_digits c)

theorem hasMinus_characters : hasMinus (d.figures.characters.map .scalar) = false := by
  refine beq_eq_false_iff_ne.2 fun hsign => ?_
  obtain ⟨char, hchar, hminus⟩ := List.mem_map.1 (List.mem_of_mem_head? hsign)
  obtain rfl := CodePoint.scalar.inj hminus
  exact absurd (d.isDigit_or_point hchar) (by decide)

/-- The text of a decimal begins with a minus sign if the decimal is negative. -/
theorem hasMinus_text : d.text.hasMinus = d.negative := by
  cases hnegative : d.negative with
  | true => rw [text, hnegative]; rfl
  | false => rw [text, hnegative]; exact d.hasMinus_characters

theorem withoutMinus_text : d.text.withoutMinus = d.figures.characters.map .scalar := by
  cases hnegative : d.negative with
  | true => rw [text, hnegative]; rfl
  | false => rw [text, hnegative]; exact withoutMinus_of_hasMinus d.hasMinus_characters

/-- Behind the sign stand the whole part and the places. -/
theorem withoutMinus_eq :
    d.text.withoutMinus = d.whole.map .scalar ++ d.figures.places.map .scalar := by
  rw [withoutMinus_text, characters_eq, List.map_append]

/-- The digits up to the point are the whole part, and the places are what follows them. -/
theorem digits_text : digits d.text.withoutMinus = d.whole ∧
    afterDigits d.text.withoutMinus = d.figures.places.map .scalar := by
  rw [withoutMinus_eq]
  refine digits_append d.whole_digits fun c hc => ?_
  rcases d.places_cases with ⟨-, hnone⟩ | ⟨-, hsome⟩
  · rw [hnone] at hc
    cases hc
  · rw [hsome] at hc
    obtain rfl : '.' = c := CodePoint.scalar.inj (Option.some.inj hc)
    rfl

theorem text_eq :
    d.text = Json.sign d.negative ++ (d.whole.map .scalar ++ d.figures.places.map .scalar) := by
  rw [← withoutMinus_eq, withoutMinus_text, text]

theorem exists_isDigit : ∃ c ∈ d.text.withoutMinus, c.isDigit = true := by
  rw [withoutMinus_eq]
  rcases d.nonempty with hwhole | ⟨-, hfraction⟩
  · obtain ⟨c, hc⟩ := List.exists_mem_of_ne_nil _ hwhole
    exact ⟨.scalar c, List.mem_append_left _ (List.mem_map_of_mem hc), d.whole_digits c hc⟩
  · obtain ⟨c, hc⟩ := List.exists_mem_of_ne_nil _ hfraction
    have hplaces := (d.places_cases.resolve_left fun h => hfraction h.1).2
    refine ⟨.scalar c, List.mem_append_right _ (List.mem_map_of_mem ?_), d.fraction_digits c hc⟩
    exact hplaces ▸ List.mem_cons_of_mem _ hc

/-- A decimal has one point at most. -/
theorem count_point : d.text.withoutMinus.count (.scalar '.') ≤ 1 := by
  rw [withoutMinus_eq, List.count_append, List.count_eq_zero.2 (point_not_mem d.whole_digits)]
  rcases d.places_cases with ⟨-, hplaces⟩ | ⟨-, hplaces⟩
  · rw [hplaces]
    decide
  · rw [hplaces, List.map_cons, List.count_cons_self,
      List.count_eq_zero.2 (point_not_mem d.fraction_digits)]

/-- No decimal begins with the point. -/
theorem head?_text : d.text.head? ≠ some (.scalar '.') := by
  rw [text_eq]
  cases hnegative : d.negative with
  | true => exact fun h => absurd (CodePoint.scalar.inj (Option.some.inj h)) (by decide)
  | false =>
    have hwhole := d.nonempty.resolve_right fun h => by simp [hnegative] at h
    rw [Json.sign, if_neg Bool.false_ne_true, List.nil_append]
    exact head?_ne_point d.whole_digits hwhole _

/-- No decimal ends with the point. -/
theorem getLast?_text : d.text.getLast? ≠ some (.scalar '.') := by
  rw [text_eq]
  rcases d.places_cases with ⟨hfraction, hplaces⟩ | ⟨hfraction, hplaces⟩
  · have hwhole := d.nonempty.resolve_right fun h => h.2 hfraction
    rw [hplaces, List.map_nil, List.append_nil]
    exact getLast?_ne_point d.whole_digits hwhole _
  · rw [hplaces, List.map_cons, List.append_cons, ← List.append_assoc]
    exact getLast?_ne_point d.fraction_digits hfraction _

/-- A number looks like one. -/
theorem looksDecimal_text : d.text.LooksDecimal := by
  refine ⟨fun c hc => ?_, d.exists_isDigit, d.count_point, d.head?_text, d.getLast?_text⟩
  rw [withoutMinus_text] at hc
  obtain ⟨char, hchar, rfl⟩ := List.mem_map.1 hc
  exact (d.isDigit_or_point hchar).imp_right (congrArg CodePoint.scalar)

/-- What passes for a number is one. -/
theorem exists_text {t : Text} (h : t.isFloat = true) : ∃ d : PlainDecimal, t = d.text := by
  have hsign := sign_append_withoutMinus t
  have hsplit : t.withoutMinus.takeWhile CodePoint.isDigit ++ afterDigits t.withoutMinus =
      t.withoutMinus := List.takeWhile_append_dropWhile
  obtain ⟨whole, hwhole, hfront⟩ := exists_figures
    (List.all_eq_true.1 (List.all_takeWhile (p := CodePoint.isDigit) (l := t.withoutMinus)))
  rw [hfront] at hsplit
  unfold isFloat at h
  dsimp only at h
  split at h
  next hrest =>
    rw [hrest, List.append_nil] at hsplit
    have hne : whole ≠ [] := by
      rintro rfl
      rw [← hsplit] at h
      cases h
    refine ⟨⟨t.hasMinus, whole, [], hwhole, fun _ hc => absurd hc List.not_mem_nil, .inl hne⟩, ?_⟩
    rw [text, characters_eq]
    show t = Json.sign t.hasMinus ++ (whole ++ []).map .scalar
    rwa [List.append_nil, hsplit]
  next fraction hrest =>
    rw [Bool.and_eq_true, bne_iff_ne] at h
    obtain ⟨figures, hne, hfigures, rfl⟩ := isUnsignedInt_iff.1 h.1
    rw [hrest] at hsplit
    have hnonempty : whole ≠ [] ∨ t.hasMinus = true ∧ figures ≠ [] := by
      refine or_iff_not_imp_left.2 fun hnil => ⟨?_, hne⟩
      rw [not_not] at hnil
      cases hminus : t.hasMinus with
      | true => rfl
      | false =>
        refine absurd ?_ h.2
        rw [← withoutMinus_of_hasMinus hminus, ← hsplit, hnil]
        rfl
    refine ⟨⟨t.hasMinus, whole, figures, hwhole, hfigures, hnonempty⟩, ?_⟩
    rw [text, characters_eq]
    show t = Json.sign t.hasMinus ++
      (whole ++ if figures = [] then [] else '.' :: figures).map .scalar
    rwa [if_neg hne, List.map_append, List.map_cons, hsplit]
  next => cases h

end PlainDecimal

/-! ## Reading them -/

namespace Numeral

variable {c : Char} {s : List Char} {negative : Bool}

/-- The characters of a number behind its sign. -/
def IsPlain (s : List Char) : Prop :=
  ∀ c ∈ s, c.isDigit = true ∨ c = '.'

/-- A minus sign or none, as it stands in front of a number. -/
def minus (negative : Bool) : List Char :=
  if negative then ['-'] else []

theorem exists_digitChar (h : c.isDigit = true) : ∃ n < 10, c = Nat.digitChar n := by
  obtain ⟨hlow, hhigh⟩ := Char.isDigit_iff_toNat.1 h
  have hzero : '0'.toNat = 48 := rfl
  have hnine : '9'.toNat = 57 := rfl
  refine ⟨c.toNat - 48, by omega, Char.toNat_inj.1 ?_⟩
  rw [Nat.toNat_digitChar_of_lt_ten (by omega)]
  omega

/-- What holds of the ten digits holds of every digit. -/
theorem forall_digits {p : Char → Prop} (hp : ∀ n < 10, p (Nat.digitChar n))
    (h : c.isDigit = true) : p c := by
  obtain ⟨n, hn, rfl⟩ := exists_digitChar h
  exact hp n hn

/-- What holds of the digits, the point and the minus holds of all characters of a number. -/
theorem IsPlain.forall_minus {p : Char → Prop} (h : IsPlain s)
    (hdigits : ∀ n < 10, p (Nat.digitChar n)) (hpoint : p '.') (hminus : p '-') :
    ∀ c ∈ minus negative ++ s, p c := by
  intro c hc
  rcases List.mem_append.1 hc with hsign | hmem
  · cases negative with
    | true => exact List.mem_singleton.1 hsign ▸ hminus
    | false => exact absurd hsign List.not_mem_nil
  · rcases h c hmem with hdigit | rfl
    · exact forall_digits hdigits hdigit
    · exact hpoint

theorem dropWhile_isBlank (h : ∀ c ∈ s, isBlank c = false) : s.dropWhile isBlank = s := by
  cases s with
  | nil => rfl
  | cons c rest => exact List.dropWhile_cons_of_neg (by simp [h c (List.mem_cons_self ..)])

theorem IsPlain.isBlank (h : IsPlain s) : ∀ c ∈ minus negative ++ s, Numeral.isBlank c = false :=
  h.forall_minus (by decide) (by decide) (by decide)

/-- A number has no blanks around it, and its characters are read as they are. -/
theorem IsPlain.content (h : IsPlain s) :
    content (Json.sign negative ++ s.map .scalar) = minus negative ++ s := by
  have hsame : ∀ c ∈ minus negative ++ s, plainCharacter (.scalar c) = c :=
    h.forall_minus (by decide) (by decide) (by decide)
  have htext : Json.sign negative ++ s.map .scalar =
      (minus negative ++ s).map CodePoint.scalar := by
    rw [List.map_append]
    cases negative <;> rfl
  have hmap : ((minus negative ++ s).map CodePoint.scalar).map plainCharacter =
      minus negative ++ s := by
    rw [List.map_map]
    exact (List.map_congr_left hsame).trans (List.map_id _)
  rw [Numeral.content, htext, hmap, dropWhile_isBlank h.isBlank]

theorem IsPlain.sign (h : IsPlain s) : sign (minus negative ++ s) = (negative, s) := by
  cases negative with
  | true => rfl
  | false =>
    show Numeral.sign s = _
    unfold Numeral.sign
    split
    next => exact absurd (h '-' (List.mem_cons_self ..)) (by decide)
    next => exact absurd (h '+' (List.mem_cons_self ..)) (by decide)
    next => rfl

theorem withoutMark_ten (s : List Char) : withoutMark 10 s = s := by
  unfold withoutMark
  split
  · exact if_neg (by rw [mark?]; simp)
  · rfl

theorem digit?_ten (h : c.isDigit = true) : digit? 10 c = some (c.toNat - '0'.toNat) :=
  forall_digits (p := fun c => digit? 10 c = some (c.toNat - '0'.toNat)) (by decide) h

/-- An integer is read as the one that it denotes, unless it has too many digits. -/
theorem integer_of_denotes {t : Text} {n : Int} (h : t.Denotes n) (limit : Nat) :
    integer limit 10 t =
      if t.withoutMinus.length ≤ limit then .ok n
      else .error (.tooManyDigits t.withoutMinus.length) := by
  obtain ⟨figures, hne, hdigits, hbody, rfl⟩ := h.spelled
  have hplain : IsPlain figures := fun c hc => .inl (hdigits c hc)
  have hsome : ∀ c ∈ figures, (digit? 10 c).isSome = true := fun c hc => by
    rw [digit?_ten (hdigits c hc)]
    rfl
  have htake : figures.takeWhile (fun c => (digit? 10 c).isSome) = figures :=
    List.takeWhile_eq_self_iff.2 hsome
  have hvalue : Digits.value 10 (figures.filterMap (digit? 10)) = number figures := by
    rw [List.filterMap_congr fun c hc => digit?_ten (hdigits c hc), List.filterMap_eq_map']
    rfl
  have hwhole :
      (figures.isEmpty || !(figures.drop figures.length).all Numeral.isBlank) = false := by
    rw [List.isEmpty_eq_false_iff.2 hne, List.drop_length]
    rfl
  have hcontent : content (Json.sign t.hasMinus ++ figures.map .scalar) =
      minus t.hasMinus ++ figures := hplain.content
  rw [← hbody, ← sign_append_withoutMinus] at hcontent
  rw [integer, hcontent, hplain.sign, hbody, List.length_map]
  dsimp only
  rw [withoutMark_ten, htake, hvalue, hwhole, if_neg Bool.false_ne_true]
  by_cases hlimit : figures.length ≤ limit
  · rw [if_neg fun hlong => Nat.not_lt.2 hlimit hlong.2, if_pos hlimit]
  · rw [if_pos ⟨rfl, Nat.lt_of_not_le hlimit⟩, if_neg hlimit]

/-- The characters of a decimal are read as its figures, with the point where it stands. -/
theorem fraction?_characters (d : PlainDecimal) :
    fraction? d.negative d.figures.characters = some (d.figures.double d.negative) := by
  have hstop : d.figures.places.takeWhile Char.isDigit = [] := by
    rcases d.places_cases with ⟨-, hplaces⟩ | ⟨-, hplaces⟩ <;> rw [hplaces] <;> rfl
  have hwhole : (d.whole ++ d.figures.places).takeWhile Char.isDigit = d.whole := by
    rw [List.takeWhile_append_of_pos d.whole_digits, hstop, List.append_nil]
  have hfraction : d.fraction.takeWhile Char.isDigit = d.fraction :=
    List.takeWhile_eq_self_iff.2 d.fraction_digits
  have hsome : (d.whole.isEmpty && d.fraction.isEmpty) = false := by
    rw [Bool.and_eq_false_iff, List.isEmpty_eq_false_iff, List.isEmpty_eq_false_iff]
    exact d.nonempty.imp_right And.right
  have hread {places rest : List Char} (hfound : places = d.fraction) (hend : rest = []) :
      (if (d.whole.isEmpty && places.isEmpty) = true then none
        else (exponent? rest).map fun e =>
          Double.ofDecimal d.negative (number (d.whole ++ places)) (e - places.length)) =
        some (d.figures.double d.negative) := by
    rw [hfound, hend, hsome, if_neg Bool.false_ne_true]
    rfl
  rw [fraction?, PlainDecimal.characters_eq, hwhole, List.drop_left]
  rcases d.places_cases with ⟨hnil, hplaces⟩ | ⟨-, hplaces⟩
  · rw [hplaces]
    exact hread hnil.symm rfl
  · rw [hplaces]
    refine hread hfraction ?_
    show d.fraction.drop (d.fraction.takeWhile Char.isDigit).length = []
    rw [hfraction, List.drop_length]

/-- No letter is in a number, but an `n` is in each of the names. -/
theorem IsPlain.ne_name (h : IsPlain s) {name : String} (hmem : name ∈ "nan" :: infinities) :
    String.ofList (s.map Char.toLower) ≠ name := by
  rintro rfl
  have hnamed : ∀ name ∈ "nan" :: infinities, 'n' ∈ name.toList := by decide
  have hletter := hnamed _ hmem
  rw [String.toList_ofList] at hletter
  obtain ⟨c, hc, hlower⟩ := List.mem_map.1 hletter
  have hother : ∀ c ∈ minus false ++ s, c.toLower ≠ 'n' :=
    h.forall_minus (by decide) (by decide) (by decide)
  exact hother c hc hlower

/-- A decimal number is read by its parts. -/
theorem double?_text (d : PlainDecimal) : double? d.text = some (d.figures.double d.negative) := by
  have hplain : IsPlain d.figures.characters := fun _ => d.isDigit_or_point
  have htrim : ((minus d.negative ++ d.figures.characters).reverse.dropWhile
      Numeral.isBlank).reverse = minus d.negative ++ d.figures.characters := by
    rw [dropWhile_isBlank fun c hc => hplain.isBlank c (List.mem_reverse.1 hc),
      List.reverse_reverse]
  have hinfinite : infinities.contains (String.ofList (d.figures.characters.map Char.toLower)) =
      false :=
    Bool.eq_false_iff.2 fun hmem =>
      hplain.ne_name (List.mem_cons_of_mem _ (List.contains_iff_mem.1 hmem)) rfl
  rw [double?, PlainDecimal.text, hplain.content, htrim, hplain.sign]
  dsimp only
  rw [hinfinite, if_neg Bool.false_ne_true, if_neg (hplain.ne_name (List.mem_cons_self ..))]
  exact fraction?_characters d

end Numeral

/-! ## Arguments -/

namespace Text

variable {t : Text}

/-- Signed integers are digits, with a minus sign in front or without one. -/
theorem isSignedInt_iff_digits : t.isSignedInt = true ↔ ∃ figures : List Char,
    figures ≠ [] ∧ AllDigits figures ∧
      (t = figures.map .scalar ∨ t = .scalar '-' :: figures.map .scalar) := by
  rw [isSignedInt_iff]
  constructor
  · rintro ⟨n, ⟨hne, hdigits⟩ | ⟨hne, hdigits⟩⟩
    · exact ⟨_, hne, hdigits, .inl rfl⟩
    · exact ⟨_, hne, hdigits, .inr rfl⟩
  · rintro ⟨figures, hne, hdigits, rfl | rfl⟩
    · exact ⟨_, .plain hne hdigits⟩
    · exact ⟨_, .minus hne hdigits⟩

/-- An unsigned integer is a signed one without a minus sign. -/
theorem isUnsignedInt_iff_signed :
    t.isUnsignedInt = true ↔ t.isSignedInt = true ∧ .scalar '-' ∉ t := by
  rw [isUnsignedInt_iff, isSignedInt_iff_digits]
  constructor
  · rintro ⟨figures, hne, hdigits, rfl⟩
    exact ⟨⟨figures, hne, hdigits, .inl rfl⟩,
      fun hminus => absurd (isDigit_of_mem hdigits hminus) (by decide)⟩
  · rintro ⟨⟨figures, hne, hdigits, rfl | rfl⟩, hminus⟩
    · exact ⟨figures, hne, hdigits, rfl⟩
    · exact absurd (List.mem_cons_self ..) hminus

end Text

namespace Argument

/-- The text of a decimal is read as the double of its figures. -/
theorem double_text (d : PlainDecimal) : double d.text = d.figures.double d.negative := by
  have hfraction : digits ((d.figures.places.map CodePoint.scalar).drop 1) = d.fraction := by
    rcases d.places_cases with ⟨hnil, hplaces⟩ | ⟨-, hplaces⟩
    · rw [hplaces, hnil]
      rfl
    · have hend : Avoids Char.isDigit ([] : Text) := fun _ hc => nomatch hc
      have hfound := (digits_append d.fraction_digits hend).1
      rw [List.append_nil] at hfound
      rw [hplaces]
      exact hfound
  unfold double
  dsimp only
  rw [d.digits_text.1, d.digits_text.2, hfraction, ← hasMinus_eq, d.hasMinus_text,
    Json.Figures.double]
  exact congrArg _ (Int.zero_sub _).symm

/-- What passes for a number is read as the double that it is nearest to. -/
theorem double?_of_isFloat {t : Text} (h : t.isFloat = true) :
    Numeral.double? t = some (double t) := by
  obtain ⟨d, rfl⟩ := PlainDecimal.exists_text h
  rw [Numeral.double?_text, double_text]

/-- Decides how an argument is sent by way of the readers of numbers, which may refuse a text. An
integer may be refused, and is then read as a double; a double must not be. -/
def read? (limit : Nat) (t : Text) : Option Argument :=
  match if t.isSignedInt then (Numeral.integer limit 10 t).toOption else none with
  | some n => some (.int n)
  | none =>
    if t.isFloat then (Numeral.double? t).map fun x => if x.isFinite then .float x else .text t
    else some (.text t)

/-- No reader gives another number than the one that is sent, and no double is refused. -/
theorem read?_eq_classify (limit : Nat) (t : Text) : read? limit t = some (classify limit t) := by
  have hfraction : (if t.isFloat = true
        then (Numeral.double? t).map fun x => if x.isFinite then float x else text t
        else some (text t)) =
      some (if t.isFloat = true then if (double t).isFinite then .float (double t) else .text t
        else .text t) := by
    by_cases hfloat : t.isFloat = true
    · rw [if_pos hfloat, if_pos hfloat, double?_of_isFloat hfloat]
      rfl
    · rw [if_neg hfloat, if_neg hfloat]
  rw [read?, classify, hfraction]
  by_cases hint : t.isSignedInt = true
  · obtain ⟨n, hn⟩ := isSignedInt_iff.1 hint
    rw [hint, if_pos rfl, Numeral.integer_of_denotes hn, hn.integer_eq, Bool.true_and]
    by_cases hlimit : t.withoutMinus.length ≤ limit
    · rw [if_pos hlimit, decide_eq_true hlimit]
      rfl
    · rw [if_neg hlimit, decide_eq_false hlimit]
      rfl
  · rw [if_neg hint, Bool.eq_false_iff.2 hint]
    rfl

/-- **The grammar of numbers.** A text passes for a number just if it looks like one: digits and at
most one point, which neither begins nor ends the text, behind at most one minus sign. It passes for
an integer just if it is digits behind at most one minus sign, and for an unsigned one just if it is
such an integer without a minus anywhere. Every integer is a number, and every number is one to the
reader of doubles, which knows many more; so that reading the arguments fails for none. -/
theorem number_grammar (t : Text) :
    (t.isFloat = true ↔ t.LooksDecimal) ∧
    (t.isSignedInt = true ↔ ∃ figures : List Char, figures ≠ [] ∧ AllDigits figures ∧
      (t = figures.map .scalar ∨ t = .scalar '-' :: figures.map .scalar)) ∧
    (t.isUnsignedInt = true ↔ t.isSignedInt = true ∧ .scalar '-' ∉ t) ∧
    (t.isSignedInt = true → t.isFloat = true) ∧
    (t.isFloat = true → Numeral.double? t = some (double t)) ∧
    read? maxDigits t = some (classify maxDigits t) := by
  refine ⟨⟨fun hfloat => ?_, LooksDecimal.isFloat⟩, isSignedInt_iff_digits,
    isUnsignedInt_iff_signed, fun hint => ?_, double?_of_isFloat, read?_eq_classify maxDigits t⟩
  · obtain ⟨d, rfl⟩ := PlainDecimal.exists_text hfloat
    exact d.looksDecimal_text
  · obtain ⟨n, hn⟩ := isSignedInt_iff.1 hint
    exact isFloat_of_denotes hn

/-- A point may stand right behind the minus. -/
theorem number_grammar_of_half :
    (ofString "-.5").isFloat = true ∧ (ofString "-.5").LooksDecimal ∧
      Numeral.double? (ofString "-.5") = some (double (ofString "-.5")) := by
  obtain ⟨hshape, -, -, -, hread, -⟩ := number_grammar (ofString "-.5")
  have hfloat : (ofString "-.5").isFloat = true := by decide
  exact ⟨hfloat, hshape.1 hfloat, hread hfloat⟩

end Argument

end DwmIpc
