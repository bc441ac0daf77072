import DwmIpc.Json.Reader
import DwmIpc.Proofs.Number.ReadBack

/-!
# Numbers as they are written

`Figures` are the parts of a number in a document: the digits before the point,
those after it, and the exponent. Whoever reads the number finds just these parts
again, if no character behind it goes on with it (`readNumber_integer`,
`readNumber_fraction`).

An integer is written with the digits of its magnitude, and a double with those
of the shortest decimal, the point shifted to where the layout wants it. Neither
loses anything (`readNumber_ofInt`, `readNumber_double`).
-/

namespace DwmIpc

/-! ## Digits -/

namespace Text

theorem number_eq_ofDigitChars (digits : List Char) :
    number digits = Nat.ofDigitChars 10 digits 0 := by
  have hstep : (fun (n : Nat) (c : Char) => n * 10 + (c.toNat - '0'.toNat))
      = fun n c => 10 * n + (c.toNat - '0'.toNat) := by
    funext n c
    rw [Nat.mul_comm]
  rw [number, Digits.value_eq_extend, Digits.extend, List.foldl_map, hstep]
  rfl

/-- More digits behind multiply what stands in front. -/
theorem number_append (a b : List Char) :
    number (a ++ b) = number a * 10 ^ b.length + number b := by
  simp only [number_eq_ofDigitChars, Nat.ofDigitChars_append]
  rw [Nat.ofDigitChars_eq_ofDigitChars_zero, Nat.mul_comm]

theorem number_replicate_zero (k : Nat) : number (List.replicate k '0') = 0 := by
  simp [number_eq_ofDigitChars]

/-- The digits of a number are read as the number. -/
theorem number_toDigits (n : Nat) : number (Nat.toDigits 10 n) = n := by
  rw [number_eq_ofDigitChars, Nat.ofDigitChars_ten_toDigits]

/-- Only digits. -/
def AllDigits (s : List Char) : Prop :=
  ∀ c ∈ s, c.isDigit = true

theorem allDigits_toDigits (n : Nat) : AllDigits (Nat.toDigits 10 n) :=
  fun _ hc => Nat.isDigit_of_mem_toDigits (by decide) (by decide) hc

theorem allDigits_replicate_zero (k : Nat) : AllDigits (List.replicate k '0') := by
  intro c hc
  rw [List.eq_of_mem_replicate hc]
  rfl

/-- The first of several digits is no zero. -/
theorem toDigits_leading (n : Nat) :
    Nat.toDigits 10 n = ['0'] ∨ (Nat.toDigits 10 n).head? ≠ some '0' := by
  by_cases hzero : n = 0
  · exact .inl (hzero ▸ Nat.toDigits_zero 10)
  · refine .inr ?_
    induction n using Nat.strongRecOn with
    | _ n ih =>
      by_cases hsmall : n < 10
      · rw [Nat.toDigits_of_lt_base hsmall]
        simpa using hzero
      · have hten : 10 ≤ n := Nat.le_of_not_lt hsmall
        rw [Nat.toDigits_of_base_le (by decide) hten]
        have hfront := ih (n / 10) (by omega) (by omega)
        cases hdigits : Nat.toDigits 10 (n / 10) with
        | nil => exact absurd hdigits Nat.toDigits_ne_nil
        | cons c digits => rwa [hdigits] at hfront

theorem AllDigits.append {a b : List Char} (ha : AllDigits a) (hb : AllDigits b) :
    AllDigits (a ++ b) := by
  intro c hc
  rcases List.mem_append.1 hc with h | h
  · exact ha c h
  · exact hb c h

/-- The text does not begin with one of these characters. -/
def Avoids (p : Char → Bool) (t : Text) : Prop :=
  ∀ c, t.head? = some (.scalar c) → p c = false

/-- Digits in front of something else are found again. -/
theorem digits_append {s : List Char} (hs : AllDigits s) {rest : Text}
    (hrest : Avoids Char.isDigit rest) :
    digits (s.map .scalar ++ rest) = s ∧ afterDigits (s.map .scalar ++ rest) = rest := by
  have hall : ∀ c ∈ s.map CodePoint.scalar, c.isDigit = true := by
    intro c hc
    obtain ⟨char, hchar, rfl⟩ := List.mem_map.1 hc
    exact hs char hchar
  have hstop : rest.takeWhile CodePoint.isDigit = [] ∧ rest.dropWhile CodePoint.isDigit = rest := by
    cases rest with
    | nil => exact ⟨rfl, rfl⟩
    | cons c more =>
      have hc : c.isDigit = false := by
        cases c with
        | scalar char => exact hrest char rfl
        | surrogate offset => rfl
      simp [hc]
  unfold digits afterDigits
  rw [List.takeWhile_append_of_pos hall, List.dropWhile_append_of_pos hall, hstop.1, hstop.2,
    List.append_nil, List.map_map]
  exact ⟨List.map_id _, rfl⟩

end Text

namespace Json

open Text Double

/-! ## The parts of a number -/

/-- The parts of a number; an exponent is its sign and its digits. -/
structure Figures where
  whole : List Char
  fraction : List Char
  exponent : Option (Bool × List Char)

namespace Figures

/-- The point and the digits behind it. -/
def places (f : Figures) : List Char :=
  if f.fraction = [] then [] else '.' :: f.fraction

/-- The letter, the sign and the digits of an exponent. -/
def power (f : Figures) : List Char :=
  match f.exponent with
  | none => []
  | some (negative, digits) => 'e' :: (if negative then '-' else '+') :: digits

/-- The characters of a number. -/
def characters (f : Figures) : List Char :=
  f.whole ++ f.places ++ f.power

/-- The value of the exponent. -/
def exponentValue (f : Figures) : Int :=
  match f.exponent with
  | none => 0
  | some (negative, digits) =>
    (if negative then -1 else 1) * ((number digits : Nat) : Int)

/-- The double nearest to the number. -/
def double (negative : Bool) (f : Figures) : Double :=
  Double.ofDecimal negative (number (f.whole ++ f.fraction)) (f.exponentValue - f.fraction.length)

/-- Where digits have to be there are digits, and the first of several is no zero. -/
structure Proper (f : Figures) : Prop where
  whole : AllDigits f.whole
  nonempty : f.whole ≠ []
  leading : f.whole = ['0'] ∨ f.whole.head? ≠ some '0'
  fraction : AllDigits f.fraction
  power : ∀ negative digits, f.exponent = some (negative, digits) → AllDigits digits ∧ digits ≠ []

/-- A number consists of digits, a point, a letter and signs. -/
theorem mem_characters {f : Figures} (h : f.Proper) {c : Char} (hc : c ∈ f.characters) :
    c.isDigit = true ∨ c ∈ ['.', 'e', '+', '-'] := by
  rw [characters, List.mem_append, List.mem_append] at hc
  obtain (hwhole | hplaces) | hpower := hc
  · exact .inl (h.whole c hwhole)
  · unfold places at hplaces
    split at hplaces
    next => exact absurd hplaces List.not_mem_nil
    next =>
      rcases List.mem_cons.1 hplaces with rfl | hdigit
      · exact .inr (by decide)
      · exact .inl (h.fraction c hdigit)
  · unfold power at hpower
    split at hpower
    next => exact absurd hpower List.not_mem_nil
    next negative digits hparts =>
      rcases List.mem_cons.1 hpower with rfl | hmore
      · exact .inr (by decide)
      · rcases List.mem_cons.1 hmore with rfl | hdigit
        · cases negative <;> exact .inr (by decide)
        · exact .inl ((h.power negative digits hparts).1 c hdigit)

end Figures

/-- Goes on with a number. -/
def continuesNumber (c : Char) : Bool :=
  c.isDigit || c == '.' || c == 'e' || c == 'E'

/-! ## Reading the parts -/

/-- No character goes on with a number. -/
abbrev EndsNumber (rest : Text) : Prop :=
  rest.Avoids continuesNumber

theorem EndsNumber.digits {rest : Text} (h : EndsNumber rest) : rest.Avoids Char.isDigit := by
  intro c hc
  have := h c hc
  simp only [continuesNumber, Bool.or_eq_false_iff] at this
  exact this.1.1.1

/-- Digits before a point, and what follows them. -/
theorem readWhole_append {whole : List Char} (hdigits : AllDigits whole)
    (hleading : whole = ['0'] ∨ whole.head? ≠ some '0') {rest : Text}
    (hrest : rest.Avoids Char.isDigit) :
    readWhole (whole.map .scalar ++ rest) = (whole, rest) := by
  rcases hleading with rfl | hfirst
  · rfl
  · obtain ⟨hfound, hafter⟩ := digits_append hdigits hrest
    unfold readWhole
    split
    next more hzero =>
      -- a zero in front could only be the first digit, or come after none
      cases whole with
      | nil =>
        rw [List.map_nil, List.nil_append] at hzero
        have := hrest '0' (by rw [hzero]; rfl)
        cases this
      | cons c digits =>
        rw [List.map_cons, List.cons_append] at hzero
        obtain rfl := CodePoint.scalar.inj (List.cons.inj hzero).1
        exact absurd rfl hfirst
    next => rw [hfound, hafter]

/-- A point is read with the digits behind it. -/
theorem readFraction_append {f : Figures} (hdigits : AllDigits f.fraction) {rest : Text}
    (hrest : rest.Avoids Char.isDigit) (hpoint : rest.head? ≠ some (.scalar '.')) :
    readFraction (f.places.map .scalar ++ rest) = (f.fraction, rest) := by
  unfold Figures.places
  by_cases hempty : f.fraction = []
  · rw [if_pos hempty, hempty, List.map_nil, List.nil_append]
    unfold readFraction
    split
    next => exact absurd rfl hpoint
    next => rfl
  · obtain ⟨hfound, hafter⟩ := digits_append hdigits hrest
    rw [if_neg hempty, List.map_cons, List.cons_append, readFraction, hfound, hafter]
    simp [hempty]

/-- An exponent is read with its sign. -/
theorem readExponent_append {f : Figures}
    (hdigits : ∀ negative digits, f.exponent = some (negative, digits) →
      AllDigits digits ∧ digits ≠ []) {rest : Text} (hrest : EndsNumber rest) :
    readExponent (f.power.map .scalar ++ rest) =
      (f.exponent.map fun _ => f.exponentValue, rest) := by
  unfold Figures.power Figures.exponentValue
  cases hexponent : f.exponent with
  | none =>
    show readExponent rest = (none, rest)
    unfold readExponent
    split
    next e more =>
      have hno := hrest e rfl
      simp only [continuesNumber, Bool.or_eq_false_iff, beq_eq_false_iff_ne] at hno
      have hletter : ¬(e = 'e' ∨ e = 'E') := fun h => h.elim hno.1.2 hno.2
      rw [if_neg hletter]
    next => rfl
  | some parts =>
    obtain ⟨negative, digits⟩ := parts
    obtain ⟨hall, hsome⟩ := hdigits negative digits hexponent
    obtain ⟨hfound, hafter⟩ := digits_append hall hrest.digits
    cases negative <;>
      simp [readExponent, hfound, hafter, hsome]

/-- The minus sign of a negative number. -/
def sign (negative : Bool) : Text :=
  if negative then [.scalar '-'] else []

/-- A number is cut into its parts. -/
theorem readNumber_characters (limits : Limits) (negative : Bool) {f : Figures} (h : f.Proper)
    {rest : Text} (hrest : EndsNumber rest) :
    readNumber limits (sign negative ++ f.characters.map .scalar ++ rest) =
      match f.fraction, f.exponent with
      | [], none =>
        if limits.digits.any (· < f.whole.length) then .error (.tooManyDigits f.whole.length)
        else .ok (.int (if negative then -(number f.whole : Nat) else (number f.whole : Nat)), rest)
      | _, _ => .ok (.float (f.double negative), rest) := by
  -- what stands behind each part does not go on with it
  obtain ⟨hdigit, hpoint⟩ : Avoids Char.isDigit (f.power.map .scalar ++ rest) ∧
      (f.power.map CodePoint.scalar ++ rest).head? ≠ some (.scalar '.') := by
    unfold Figures.power
    cases f.exponent with
    | none =>
      refine ⟨hrest.digits, fun hpoint => ?_⟩
      cases hrest '.' hpoint
    | some parts =>
      refine ⟨fun c hc => ?_, by simp⟩
      obtain rfl : 'e' = c := by simpa using hc
      rfl
  have hplaces : Avoids Char.isDigit
      (f.places.map .scalar ++ (f.power.map .scalar ++ rest)) := by
    unfold Figures.places
    split
    · exact hdigit
    · intro c hc
      obtain rfl : '.' = c := by simpa using hc
      rfl
  have hwhole := readWhole_append h.whole h.leading hplaces
  have hfraction := readFraction_append h.fraction hdigit hpoint
  have hexponent := readExponent_append h.power hrest
  -- the sign
  have hsplit : f.characters.map CodePoint.scalar ++ rest = f.whole.map .scalar ++
      (f.places.map .scalar ++ (f.power.map .scalar ++ rest)) := by
    simp [Figures.characters]
  have hfirst : ∀ c more, f.whole.map CodePoint.scalar ++ more ≠ .scalar '-' :: c := by
    intro c more hminus
    cases hfirst : f.whole with
    | nil => exact h.nonempty hfirst
    | cons d digits =>
      rw [hfirst, List.map_cons, List.cons_append] at hminus
      obtain rfl := CodePoint.scalar.inj (List.cons.inj hminus).1
      have hdigit := h.whole '-' (by rw [hfirst]; exact List.mem_cons_self ..)
      cases hdigit
  have hsome : f.whole.isEmpty = false := by simpa using h.nonempty
  rw [List.append_assoc, hsplit]
  unfold readNumber
  split
  next found unsigned hfound =>
    -- the sign that is found is the one in front
    obtain ⟨rfl, rfl⟩ : negative = found ∧ f.whole.map CodePoint.scalar ++
        (f.places.map .scalar ++ (f.power.map .scalar ++ rest)) = unsigned := by
      cases negative with
      | true => exact Prod.mk.inj hfound
      | false =>
        rw [sign, if_neg Bool.false_ne_true, List.nil_append] at hfound
        split at hfound
        next more hminus => exact absurd hminus (hfirst _ _)
        next => exact Prod.mk.inj hfound
    simp only [hwhole, hfraction, hexponent, hsome, Figures.double, Figures.exponentValue]
    cases hfraction : f.fraction with
    | nil => cases hexponent : f.exponent <;> simp
    | cons c digits => cases hexponent : f.exponent <;> simp

/-- Figures without a fraction and an exponent are read as an integer. -/
theorem readNumber_integer (limits : Limits) (negative : Bool) {f : Figures} (h : f.Proper)
    (hfraction : f.fraction = []) (hexponent : f.exponent = none)
    (hfew : ∀ limit, limits.digits = some limit → f.whole.length ≤ limit)
    {rest : Text} (hrest : EndsNumber rest) :
    readNumber limits (sign negative ++ f.characters.map .scalar ++ rest) =
      .ok (.int (if negative then -(number f.whole : Nat) else (number f.whole : Nat)), rest) := by
  have hfits : limits.digits.any (· < f.whole.length) = false := by
    cases hlimit : limits.digits with
    | none => rfl
    | some limit => exact decide_eq_false (Nat.not_lt.2 (hfew limit hlimit))
  rw [readNumber_characters limits negative h hrest, hfraction, hexponent]
  simp only [hfits, Bool.false_eq_true, if_false]

/-- Figures with one of them are read as a double. -/
theorem readNumber_fraction (limits : Limits) (negative : Bool) {f : Figures} (h : f.Proper)
    (hparts : f.fraction ≠ [] ∨ f.exponent ≠ none) {rest : Text} (hrest : EndsNumber rest) :
    readNumber limits (sign negative ++ f.characters.map .scalar ++ rest) =
      .ok (.float (f.double negative), rest) := by
  rw [readNumber_characters limits negative h hrest]
  split
  next hfraction hexponent => exact absurd hparts (by simp [hfraction, hexponent])
  next => rfl

/-! ## Integers -/

theorem ofInt_eq_sign (n : Int) :
    Text.ofInt n = sign (decide (n < 0)) ++ (Nat.toDigits 10 n.natAbs).map .scalar := by
  cases n with
  | ofNat n => rfl
  | negSucc n =>
    rw [decide_eq_true (Int.negSucc_lt_zero n)]
    rfl

/-- An integer is read back, if it has no more digits than the limit allows. -/
theorem readNumber_ofInt {limits : Limits} {n : Int}
    (hfew : ∀ limit, limits.digits = some limit → (Nat.toDigits 10 n.natAbs).length ≤ limit)
    {rest : Text} (hrest : EndsNumber rest) :
    readNumber limits (Text.ofInt n ++ rest) = .ok (.int n, rest) := by
  have hproper : Figures.Proper ⟨Nat.toDigits 10 n.natAbs, [], none⟩ :=
    { whole := allDigits_toDigits _
      nonempty := Nat.toDigits_ne_nil
      leading := toDigits_leading _
      fraction := fun _ hc => absurd hc List.not_mem_nil
      power := fun _ _ hnone => nomatch hnone }
  have hcharacters : (Figures.mk (Nat.toDigits 10 n.natAbs) [] none).characters =
      Nat.toDigits 10 n.natAbs := by
    simp [Figures.characters, Figures.places, Figures.power]
  have hvalue : (if decide (n < 0) = true then -(n.natAbs : Int) else n.natAbs) = n := by
    simp only [decide_eq_true_eq]
    omega
  have hread := readNumber_integer limits (decide (n < 0)) hproper rfl rfl hfew hrest
  rw [hcharacters, ← ofInt_eq_sign, number_toDigits, hvalue] at hread
  exact hread

/-! ## Doubles -/

namespace Figures

/-- How the digits and the exponent of a number stand for a decimal. -/
structure Stands (f : Figures) (digits : List Char) (leading : Int) : Prop where
  proper : f.Proper
  parts : f.fraction ≠ [] ∨ f.exponent ≠ none
  double : ∀ negative, f.double negative =
    Double.ofDecimal negative (number digits) (leading + 1 - digits.length)

/-- Figures without an exponent: the whole part, the point and the fraction. -/
theorem characters_fraction (whole : List Char) {fraction : List Char} (hfraction : fraction ≠ []) :
    (mk whole fraction none).characters = whole ++ '.' :: fraction := by
  simp [characters, places, power, hfraction]

/-- Zeros that are added to the digits make up for the place of the point. -/
theorem stands_fraction {whole fraction digits : List Char} {leading : Int} (k : Nat)
    (hproper : Proper ⟨whole, fraction, none⟩) (hfraction : fraction ≠ [])
    (hnumber : number (whole ++ fraction) = number digits * 10 ^ k)
    (hplaces : leading + 1 - digits.length - k = -(fraction.length : Int)) :
    Stands ⟨whole, fraction, none⟩ digits leading := by
  refine ⟨hproper, .inl hfraction, fun negative => ?_⟩
  show Double.ofDecimal negative (number (whole ++ fraction)) (0 - fraction.length) = _
  rw [hnumber, Int.zero_sub, ← hplaces, Double.ofDecimal_shift]

theorem proper_fraction {whole fraction : List Char} (hwhole : AllDigits whole)
    (hsome : whole ≠ []) (hleading : whole = ['0'] ∨ whole.head? ≠ some '0')
    (hfraction : AllDigits fraction) : Proper ⟨whole, fraction, none⟩ :=
  ⟨hwhole, hsome, hleading, hfraction, fun _ _ hnone => nomatch hnone⟩

variable {digits : List Char}

/-- In positional notation zeros are added in front or behind, or none at all. -/
theorem positional (hdigits : AllDigits digits) (hsome : digits ≠ [])
    (hfirst : digits.head? ≠ some '0') (leading : Int) :
    ∃ f : Figures, f.characters = DecimalLayout.positional digits leading ∧
      f.Stands digits leading := by
  unfold DecimalLayout.positional
  split
  next hsmall =>
    -- zeros in front change nothing
    have hzeros := (allDigits_replicate_zero (-leading - 1).toNat).append hdigits
    have hfraction : List.replicate (-leading - 1).toNat '0' ++ digits ≠ [] := by simp [hsome]
    refine ⟨_, characters_fraction ['0'] hfraction,
      stands_fraction 0 (proper_fraction ?_ (by simp) (.inl rfl) hzeros) hfraction ?_ ?_⟩
    · exact allDigits_replicate_zero 1
    · have hreplicate : ['0'] ++ (List.replicate (-leading - 1).toNat '0' ++ digits) =
          List.replicate ((-leading - 1).toNat + 1) '0' ++ digits := rfl
      rw [hreplicate, number_append, number_replicate_zero]
      omega
    · simp only [List.length_append, List.length_replicate]
      omega
  next hlarge =>
    by_cases hlong : leading.toNat + 1 < digits.length
    · -- the point stands among the digits
      have hfraction : digits.drop (leading.toNat + 1) ≠ [] := by simpa using hlong
      have hnozeros : leading.toNat + 1 - digits.length = 0 :=
        Nat.sub_eq_zero_of_le (Nat.le_of_lt hlong)
      have hbehind : (digits.drop (leading.toNat + 1)).isEmpty = false := by simpa using hfraction
      simp only [hnozeros, hbehind, List.replicate_zero, List.append_nil, Bool.false_eq_true,
        if_false]
      refine ⟨_, characters_fraction _ hfraction,
        stands_fraction 0 (proper_fraction ?_ ?_ (.inr ?_) ?_) hfraction ?_ ?_⟩
      · exact fun c hc => hdigits c (List.mem_of_mem_take hc)
      · simpa using hsome
      · rwa [List.head?_take, if_neg (Nat.succ_ne_zero _)]
      · exact fun c hc => hdigits c (List.mem_of_mem_drop hc)
      · rw [List.take_append_drop, Nat.pow_zero, Nat.mul_one]
      · rw [List.length_drop]
        omega
    · -- zeros fill the places up to the point, and one more stands behind it
      have hall : digits.take (leading.toNat + 1) = digits := List.take_of_length_le (by omega)
      have hnone : digits.drop (leading.toNat + 1) = [] := List.drop_of_length_le (by omega)
      simp only [hall, hnone, List.isEmpty_nil, if_true]
      refine ⟨_, characters_fraction _ (by simp),
        stands_fraction (leading.toNat + 1 - digits.length + 1)
          (proper_fraction ?_ ?_ (.inr ?_) ?_) (by simp) ?_ ?_⟩
      · exact hdigits.append (allDigits_replicate_zero _)
      · simp [hsome]
      · rwa [List.head?_append, Option.or_of_isSome (by simpa using hsome)]
      · exact allDigits_replicate_zero 1
      · have hreplicate (k : Nat) : digits ++ List.replicate k '0' ++ ['0'] =
            digits ++ List.replicate (k + 1) '0' := by
          rw [List.append_assoc, List.replicate_succ']
        rw [hreplicate, number_append, number_replicate_zero, List.length_replicate, Nat.add_zero]
      · simp only [List.length_cons, List.length_nil]
        omega

/-- With an exponent the point stands behind the first digit. -/
theorem scientific (layout : DecimalLayout) (hdigits : AllDigits digits) (hsome : digits ≠ [])
    (hfirst : digits.head? ≠ some '0') (leading : Int) :
    ∃ f : Figures, f.characters = layout.scientific digits leading ∧ f.Stands digits leading := by
  cases digits with
  | nil => exact absurd rfl hsome
  | cons c more =>
    let exponent := DecimalLayout.padded layout.exponentDigits leading.natAbs
    have hexponent : AllDigits exponent :=
      (allDigits_replicate_zero _).append (allDigits_toDigits _)
    have hvalue : number exponent = leading.natAbs := by
      show number (_ ++ _) = _
      rw [number_append, number_replicate_zero, number_toDigits]
      omega
    refine ⟨⟨[c], more, some (decide (leading < 0), exponent)⟩, ?_, ?_, .inr (by simp), ?_⟩
    · unfold DecimalLayout.scientific characters places power
      cases more <;> simp [exponent]
    · refine ⟨fun d hd => ?_, List.cons_ne_nil _ _, .inr hfirst, fun d hd => ?_, ?_⟩
      · obtain rfl := List.mem_singleton.1 hd
        exact hdigits d (List.mem_cons_self ..)
      · exact hdigits d (List.mem_cons_of_mem _ hd)
      · rintro negative digits hparts
        obtain ⟨-, rfl⟩ := Prod.mk.inj (Option.some.inj hparts)
        exact ⟨hexponent, by simp [exponent, DecimalLayout.padded, Nat.toDigits_ne_nil]⟩
    · intro negative
      have hsign : (if decide (leading < 0) = true then -1 else 1) *
          ((number exponent : Nat) : Int) = leading := by
        rw [hvalue]
        simp only [decide_eq_true_eq]
        split <;> omega
      have hplaces : leading - (more.length : Int) = leading + 1 - ((c :: more).length : Int) := by
        rw [List.length_cons]
        omega
      show Double.ofDecimal negative (number (c :: more)) ((if decide (leading < 0) = true then -1
        else 1) * ((number exponent : Nat) : Int) - (more.length : Int)) = _
      rw [hsign, hplaces]

end Figures

/-- Zeros at the end of the digits only raise the exponent. -/
theorem significant_append (digits : List Char) :
    ∃ k, digits = DecimalLayout.significant digits ++ List.replicate k '0' := by
  refine ⟨(digits.reverse.takeWhile (· == '0')).length, ?_⟩
  have hzeros : digits.reverse.takeWhile (· == '0') =
      List.replicate (digits.reverse.takeWhile (· == '0')).length '0' := by
    refine List.eq_replicate_iff.2 ⟨rfl, fun c hc => ?_⟩
    exact eq_of_beq (List.all_eq_true.1 List.all_takeWhile c hc)
  have hsplit := congrArg List.reverse (List.takeWhile_append_dropWhile
    (p := (· == '0')) (l := digits.reverse))
  rw [List.reverse_reverse, List.reverse_append, hzeros, List.reverse_replicate] at hsplit
  exact hsplit.symm

/-- The characters of a double stand for the shortest decimal. -/
theorem magnitude_figures (layout : DecimalLayout) {m : Nat} (hpositive : m ≠ 0)
    (h : Representable m) (hfits : m < overflow) :
    ∃ f : Figures, f.characters = layout.magnitude m ∧ f.Proper ∧
      (f.fraction ≠ [] ∨ f.exponent ≠ none) ∧
      ∀ negative, f.double negative = .finite negative m := by
  have hback := Decimal.toDouble_shortest h hfits
  have hnonzero : (Decimal.shortest m).digits ≠ 0 := by
    intro hzero
    have hback := hback false
    rw [Decimal.toDouble, hzero, ofDecimal, if_pos rfl] at hback
    exact hpositive (Double.finite.inj hback).2.symm
  simp only [DecimalLayout.magnitude]
  generalize Decimal.shortest m = d at hback hnonzero
  have hall := allDigits_toDigits d.digits
  have hvalue := number_toDigits d.digits
  obtain hzero | hfirst := toDigits_leading d.digits
  · rw [hzero] at hvalue
    exact absurd hvalue.symm hnonzero
  · generalize Nat.toDigits 10 d.digits = digits at hall hvalue hfirst
    obtain ⟨k, hsplit⟩ := significant_append digits
    generalize DecimalLayout.significant digits = front at hsplit
    -- what is left of the digits is a number with the same first digit
    have hfront : AllDigits front := fun c hc =>
      hall c (hsplit ▸ List.mem_append_left _ hc)
    have hsome : front ≠ [] := by
      rintro rfl
      rw [hsplit, List.nil_append, number_replicate_zero] at hvalue
      exact hnonzero hvalue.symm
    have hleading : front.head? ≠ some '0' := by
      rwa [hsplit, List.head?_append, Option.or_of_isSome (by simpa using hsome)] at hfirst
    have hshift (negative : Bool) : ofDecimal negative (number front)
        (d.exponent + (digits.length - 1 : Nat) + 1 - front.length) = .finite negative m := by
      have hlength : digits.length = front.length + k := by
        rw [hsplit, List.length_append, List.length_replicate]
      have hlong : 0 < front.length := List.length_pos_iff.2 hsome
      have hexponent : d.exponent + (digits.length - 1 : Nat) + 1 - front.length - k
          = d.exponent := by omega
      rw [← ofDecimal_shift _ _ k, hexponent, ← hback negative, Decimal.toDouble, ← hvalue,
        hsplit, number_append, number_replicate_zero, List.length_replicate, Nat.add_zero]
    split
    · obtain ⟨f, hcharacters, hstands⟩ := Figures.positional hfront hsome hleading
        (d.exponent + (digits.length - 1 : Nat))
      exact ⟨f, hcharacters, hstands.proper, hstands.parts,
        fun negative => (hstands.double negative).trans (hshift negative)⟩
    · obtain ⟨f, hcharacters, hstands⟩ := Figures.scientific layout hfront hsome hleading
        (d.exponent + (digits.length - 1 : Nat))
      exact ⟨f, hcharacters, hstands.proper, hstands.parts,
        fun negative => (hstands.double negative).trans (hshift negative)⟩

/-- A finite double is written as a number that is read as the double. -/
theorem text_figures (negative : Bool) {m : Nat} (h : Representable m) (hfits : m < overflow) :
    ∃ f : Figures, DecimalLayout.json.text (.finite negative m) =
        sign negative ++ f.characters.map .scalar ∧
      f.Proper ∧ (f.fraction ≠ [] ∨ f.exponent ≠ none) ∧
      f.double negative = .finite negative m := by
  have hminus : Text.ofString (if negative then "-" else "") = sign negative := by
    cases negative <;> rfl
  rw [DecimalLayout.text, hminus]
  split
  next hzero =>
    have hzeros : AllDigits ['0'] := allDigits_replicate_zero 1
    exact ⟨⟨['0'], ['0'], none⟩, rfl, Figures.proper_fraction hzeros (by simp) (.inl rfl) hzeros,
      .inl (by simp), hzero ▸ rfl⟩
  next hpositive =>
    obtain ⟨f, hcharacters, hproper, hparts, hdouble⟩ :=
      magnitude_figures .json hpositive h hfits
    exact ⟨f, by rw [hcharacters], hproper, hparts, hdouble negative⟩

/-- A double that was read or computed is read back. -/
theorem readNumber_double {limits : Limits} {negative : Bool} {m : Nat} (h : Representable m)
    (hfits : m < overflow) {rest : Text} (hrest : EndsNumber rest) :
    readNumber limits (DecimalLayout.json.text (.finite negative m) ++ rest) =
      .ok (.float (.finite negative m), rest) := by
  obtain ⟨f, htext, hproper, hparts, hdouble⟩ := text_figures negative h hfits
  rw [htext, readNumber_fraction limits negative hproper hparts hrest, hdouble]

end Json

end DwmIpc
