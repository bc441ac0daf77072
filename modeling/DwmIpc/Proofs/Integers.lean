import DwmIpc.Proofs.Number.Overflow
import DwmIpc.Proofs.Requests

/-!
# Integers among the arguments

`Text.Denotes` says which integer a text denotes, by its digits and its sign and
without a word on how it is read. The texts that denote one are those that look like
one (`isSignedInt_iff`), and each denotes just one integer (`Denotes.unique`).

An argument of at most 4300 digits is sent as the integer that it denotes. Longer ones
are tried as fractions. A number that has so many digits is too large for a double, so
that the text is sent, unless most of the digits are zeros in front of the number:
then a double is sent in the integer's place (`integers_are_kept_unless_padded`).
-/

namespace DwmIpc

open Text

namespace Text

/-! ## What a text denotes -/

/-- Decimal digits, at least one, denote a natural number, and with a minus sign in front of them
its negative. -/
inductive Denotes : Text → Int → Prop
  | plain {figures : List Char} : figures ≠ [] → AllDigits figures →
      Denotes (figures.map .scalar) (Nat.ofDigitChars 10 figures 0)
  | minus {figures : List Char} : figures ≠ [] → AllDigits figures →
      Denotes (.scalar '-' :: figures.map .scalar) (-(Nat.ofDigitChars 10 figures 0))

/-- The sign of a text is in front of it. -/
def hasMinus (t : Text) : Bool :=
  t.head? == some (.scalar '-')

variable {t : Text} {n : Int} {figures : List Char}

theorem withoutMinus_of_hasMinus (h : t.hasMinus = false) : t.withoutMinus = t := by
  unfold withoutMinus
  split
  · cases h
  · rfl

/-- There is a minus sign if taking it away makes the text shorter. -/
theorem hasMinus_eq (t : Text) : t.hasMinus = decide (t.withoutMinus.length < t.length) := by
  cases hsign : t.hasMinus with
  | false => rw [withoutMinus_of_hasMinus hsign, decide_eq_false (Nat.lt_irrefl _)]
  | true =>
    obtain ⟨rest, rfl⟩ : ∃ rest, t = .scalar '-' :: rest :=
      List.head?_eq_some_iff.1 (eq_of_beq hsign)
    exact (decide_eq_true (Nat.lt_succ_self rest.length)).symm

theorem hasMinus_digits (hdigits : AllDigits figures) :
    hasMinus (figures.map .scalar) = false := by
  cases figures with
  | nil => rfl
  | cons c more =>
    refine beq_eq_false_iff_ne.2 fun hsign => ?_
    obtain rfl : c = '-' := CodePoint.scalar.inj (Option.some.inj hsign)
    exact absurd (hdigits '-' (List.mem_cons_self ..)) (by decide)

/-- A text that denotes an integer is a sign, or none, in front of its digits. -/
theorem Denotes.spelled (h : t.Denotes n) : ∃ figures : List Char, figures ≠ [] ∧
    AllDigits figures ∧ t.withoutMinus = figures.map .scalar ∧
      n = if t.hasMinus then -(number figures : Int) else (number figures : Int) := by
  cases h with
  | @plain figures hne hdigits =>
    have hsign := hasMinus_digits hdigits
    refine ⟨figures, hne, hdigits, withoutMinus_of_hasMinus hsign, ?_⟩
    rw [hsign, number_eq_ofDigitChars]
    rfl
  | @minus figures hne hdigits =>
    refine ⟨figures, hne, hdigits, rfl, ?_⟩
    rw [number_eq_ofDigitChars]
    rfl

/-- Behind the sign there are digits only. -/
theorem digits_of_withoutMinus (hdigits : AllDigits figures)
    (h : t.withoutMinus = figures.map .scalar) :
    digits t.withoutMinus = figures ∧ afterDigits t.withoutMinus = [] := by
  have hend : Avoids Char.isDigit [] := fun _ hc => nomatch hc
  have hfound := digits_append hdigits hend
  rwa [List.append_nil, ← h] at hfound

/-- A text of digits is made of figures. -/
theorem exists_figures (h : ∀ c ∈ t, c.isDigit = true) :
    ∃ figures, AllDigits figures ∧ t = figures.map .scalar := by
  induction t with
  | nil => exact ⟨[], fun _ hc => absurd hc List.not_mem_nil, rfl⟩
  | cons c rest ih =>
    obtain ⟨figures, hdigits, rfl⟩ := ih fun d hd => h d (List.mem_cons_of_mem _ hd)
    have hc := h c (List.mem_cons_self ..)
    cases c with
    | scalar c => exact ⟨c :: figures, List.forall_mem_cons.2 ⟨hc, hdigits⟩, rfl⟩
    | surrogate offset => cases hc

/-- The integer of figures with a sign. -/
theorem integer_of_withoutMinus (hdigits : AllDigits figures)
    (h : t.withoutMinus = figures.map .scalar) :
    Argument.integer t =
      if t.hasMinus then -(number figures : Int) else (number figures : Int) := by
  rw [hasMinus_eq, ← (digits_of_withoutMinus hdigits h).1]
  show (if _ then _ else _ : Int) = _
  simp only [decide_eq_true_eq]

/-- An unsigned integer is a text of digits, and not empty. -/
theorem isUnsignedInt_iff : t.isUnsignedInt = true ↔
    ∃ figures : List Char, figures ≠ [] ∧ AllDigits figures ∧ t = figures.map .scalar := by
  rw [isUnsignedInt, Bool.and_eq_true, Bool.not_eq_true', List.isEmpty_eq_false_iff,
    List.all_eq_true]
  constructor
  · rintro ⟨hne, hall⟩
    obtain ⟨figures, hdigits, rfl⟩ := exists_figures hall
    exact ⟨figures, fun hnil => hne (hnil ▸ rfl), hdigits, rfl⟩
  · rintro ⟨figures, hne, hdigits, rfl⟩
    refine ⟨by simpa using hne, fun c hc => ?_⟩
    obtain ⟨char, hchar, rfl⟩ := List.mem_map.1 hc
    exact hdigits char hchar

/-- What looks like an integer denotes the one that it is read as. -/
theorem denotes_integer (h : t.isSignedInt = true) : t.Denotes (Argument.integer t) := by
  obtain ⟨figures, hne, hdigits, hbody⟩ := isUnsignedInt_iff.1 h
  rw [integer_of_withoutMinus hdigits hbody, number_eq_ofDigitChars]
  cases hsign : t.hasMinus with
  | false =>
    rw [withoutMinus_of_hasMinus hsign] at hbody
    rw [hbody]
    exact .plain hne hdigits
  | true =>
    obtain ⟨rest, rfl⟩ : ∃ rest, t = .scalar '-' :: rest :=
      List.head?_eq_some_iff.1 (eq_of_beq hsign)
    rw [show rest = figures.map .scalar from hbody]
    exact .minus hne hdigits

/-- A text is read as the integer that it denotes. -/
theorem Denotes.integer_eq (h : t.Denotes n) : Argument.integer t = n := by
  obtain ⟨figures, -, hdigits, hbody, rfl⟩ := h.spelled
  exact integer_of_withoutMinus hdigits hbody

theorem Denotes.isSignedInt (h : t.Denotes n) : t.isSignedInt = true := by
  obtain ⟨figures, hne, hdigits, hbody, -⟩ := h.spelled
  exact isUnsignedInt_iff.2 ⟨figures, hne, hdigits, hbody⟩

/-- What denotes an integer is what looks like one. -/
theorem isSignedInt_iff : t.isSignedInt = true ↔ ∃ n, t.Denotes n :=
  ⟨fun h => ⟨_, denotes_integer h⟩, fun ⟨_, h⟩ => h.isSignedInt⟩

/-- No text denotes two integers. -/
theorem Denotes.unique {k : Int} (h : t.Denotes n) (hk : t.Denotes k) : k = n :=
  hk.integer_eq.symm.trans h.integer_eq

/-- An integer is written as a text that denotes it. -/
theorem denotes_ofInt (n : Int) : (ofInt n).Denotes n := by
  have hvalue (m : Nat) : Nat.ofDigitChars 10 (Nat.toDigits 10 m) 0 = m :=
    Nat.ofDigitChars_ten_toDigits
  cases n with
  | ofNat m =>
    have hplain := Denotes.plain Nat.toDigits_ne_nil (allDigits_toDigits m)
    rwa [hvalue] at hplain
  | negSucc m =>
    have hminus := Denotes.minus Nat.toDigits_ne_nil (allDigits_toDigits (m + 1))
    rwa [hvalue] at hminus

/-- Without a zero in front, a number is as large as its digits are many. -/
theorem pow_le_number {c : Char} {more : List Char} (hdigit : c.isDigit = true) (hc : c ≠ '0') :
    10 ^ more.length ≤ number (c :: more) := by
  have hpositive : 0 < number [c] := by
    refine Nat.pos_of_ne_zero fun hzero => hc ?_
    rw [number_eq_ofDigitChars] at hzero
    have hvalue : c.toNat - '0'.toNat = 0 := by simpa [Nat.ofDigitChars] using hzero
    simp only [Char.isDigit, Bool.and_eq_true, decide_eq_true_eq, ge_iff_le] at hdigit
    have hlow : '0'.toNat ≤ c.toNat := UInt32.le_iff_toNat_le.1 hdigit.1
    exact Char.toNat_inj.1 (by omega)
  have hsplit := number_append [c] more
  rw [List.singleton_append] at hsplit
  calc 10 ^ more.length = 1 * 10 ^ more.length := (Nat.one_mul _).symm
    _ ≤ number [c] * 10 ^ more.length := Nat.mul_le_mul_right _ hpositive
    _ ≤ number (c :: more) := hsplit ▸ Nat.le_add_right ..

end Text

namespace Argument

variable {t : Text} {n : Int}

/-! ## What becomes of an integer -/

theorem isFloat_of_denotes (h : t.Denotes n) : t.isFloat = true := by
  obtain ⟨figures, hne, hdigits, hbody, -⟩ := h.spelled
  unfold Text.isFloat
  dsimp only
  rw [(digits_of_withoutMinus hdigits hbody).2, hbody]
  simpa using hne

/-- As a decimal it is the double next to the integer. -/
theorem double_of_denotes (h : t.Denotes n) :
    double t = Double.ofDecimal t.hasMinus n.natAbs 0 := by
  have hnatAbs := natAbs_integer t
  rw [h.integer_eq] at hnatAbs
  obtain ⟨figures, hne, hdigits, hbody, -⟩ := h.spelled
  have hrest : digits ((afterDigits t.withoutMinus).drop 1) = [] := by
    rw [(digits_of_withoutMinus hdigits hbody).2]
    rfl
  unfold double
  dsimp only
  rw [hrest, List.append_nil, ← hnatAbs, hasMinus_eq]
  rfl

/-- What an integer becomes, by its digits and its size. -/
theorem classify_of_denotes (h : t.Denotes n) (limit : Nat) :
    classify limit t =
      if t.withoutMinus.length ≤ limit then .int n
      else if n.natAbs < 2 ^ 1024 - 2 ^ 970 then
        .float (Double.ofDecimal t.hasMinus n.natAbs 0)
      else .text t := by
  have hfinite := Double.isFinite_ofDecimal_natCast t.hasMinus n.natAbs
  -- the bound itself is never computed
  generalize 2 ^ 1024 - 2 ^ 970 = bound at hfinite ⊢
  unfold classify
  rw [h.isSignedInt, h.integer_eq, isFloat_of_denotes h, double_of_denotes h, Bool.true_and,
    if_pos rfl]
  dsimp only
  rw [if_congr decide_eq_true_iff rfl rfl, if_congr hfinite rfl rfl]

/-- Without a zero in front, each digit but one is worth more than three bits. -/
theorem two_pow_le_of_denotes (h : t.Denotes n)
    (hzero : t.withoutMinus.head? ≠ some (.scalar '0')) :
    2 ^ (3 * (t.withoutMinus.length - 1)) ≤ n.natAbs := by
  have hnatAbs := natAbs_integer t
  rw [h.integer_eq] at hnatAbs
  obtain ⟨figures, hne, hdigits, hbody, -⟩ := h.spelled
  rw [(digits_of_withoutMinus hdigits hbody).1] at hnatAbs
  rw [hbody] at hzero ⊢
  cases figures with
  | nil => exact absurd rfl hne
  | cons c more =>
    have hc : c ≠ '0' := by
      rintro rfl
      exact hzero rfl
    rw [List.length_map, List.length_cons, Nat.add_sub_cancel]
    calc 2 ^ (3 * more.length) = (2 ^ 3) ^ more.length := Nat.pow_mul ..
      _ ≤ 10 ^ more.length := Nat.pow_le_pow_left (by decide) _
      _ ≤ number (c :: more) := pow_le_number (hdigits c (List.mem_cons_self ..)) hc
      _ = n.natAbs := hnatAbs.symm

/-- A number that is small for the count of its digits has a zero in front. -/
theorem head?_eq_zero_of_lt {bits : Nat} (h : t.Denotes n)
    (hbits : bits ≤ 3 * (t.withoutMinus.length - 1)) (hsmall : n.natAbs < 2 ^ bits) :
    t.withoutMinus.head? = some (.scalar '0') := by
  by_contra hzero
  have hlarge : 2 ^ bits ≤ n.natAbs :=
    calc 2 ^ bits ≤ 2 ^ (3 * (t.withoutMinus.length - 1)) :=
          Nat.pow_le_pow_right (by decide) hbits
      _ ≤ n.natAbs := two_pow_le_of_denotes h hzero
  exact Nat.not_lt.2 hlarge hsmall

/-- **An integer is sent as it is, unless it is padded.** A text that looks like an integer denotes
just one. With at most 4300 digits, zeros in front included, it is sent as that integer, and
otherwise as the text; only if the integer of more digits is below `2 ^ 1024 - 2 ^ 970`, which takes
zeros in front of it, is the nearest double sent in its place. What is written of an integer that is
sent denotes the integer again. -/
theorem integers_are_kept_unless_padded (t : Text) (h : t.isSignedInt = true) :
    ∃ n : Int, (∀ k, t.Denotes k ↔ k = n) ∧
      let count := t.withoutMinus.length
      let padded := 4300 < count ∧ n.natAbs < 2 ^ 1024 - 2 ^ 970
      (classify maxDigits t = (if count ≤ 4300 then .int n else .text t) ↔ ¬padded) ∧
      (padded → classify maxDigits t = .float (Double.ofDecimal t.hasMinus n.natAbs 0)) ∧
      (padded → t.withoutMinus.head? = some (.scalar '0')) ∧
      (count ≤ 4300 → (Json.render .unicode (classify maxDigits t).toJson).Denotes n) := by
  obtain ⟨n, hn⟩ := isSignedInt_iff.1 h
  have hlimit : maxDigits = 4300 := rfl
  have hclassify := classify_of_denotes hn maxDigits
  rw [hlimit] at hclassify ⊢
  refine ⟨n, fun k => ⟨hn.unique, fun hk => hk ▸ hn⟩, ?_⟩
  intro count padded
  have hfloat (hpadded : padded) :
      classify 4300 t = .float (Double.ofDecimal t.hasMinus n.natAbs 0) := by
    rw [hclassify, if_neg (Nat.not_le.2 hpadded.1), if_pos hpadded.2]
  refine ⟨⟨fun hkept hpadded => ?_, fun hnot => ?_⟩, hfloat, fun hpadded => ?_,
    fun hcount => ?_⟩
  · rw [hfloat hpadded, if_neg (Nat.not_le.2 hpadded.1)] at hkept
    cases hkept
  · rw [hclassify]
    by_cases hcount : count ≤ 4300
    · rw [if_pos hcount, if_pos hcount]
    · have hlarge : ¬n.natAbs < 2 ^ 1024 - 2 ^ 970 :=
        fun hsmall => hnot ⟨Nat.lt_of_not_le hcount, hsmall⟩
      rw [if_neg hcount, if_neg hcount, if_neg hlarge]
  · have hbits : 1024 ≤ 3 * (t.withoutMinus.length - 1) := by
      have hlong : 4300 < t.withoutMinus.length := hpadded.1
      omega
    exact head?_eq_zero_of_lt hn hbits (Nat.lt_of_lt_of_le hpadded.2 (Nat.sub_le _ _))
  · rw [hclassify, if_pos hcount]
    show (Json.render .unicode (.int n)).Denotes n
    rw [Json.render_int]
    exact denotes_ofInt n

/-- A seven behind 4300 zeros is sent as a double. -/
theorem seven_is_sent_as_double :
    let seven : Text := List.replicate 4300 (.scalar '0') ++ [.scalar '7']
    seven.isSignedInt = true ∧ seven.Denotes 7 ∧
      classify maxDigits seven = .float (Double.ofDecimal false 7 0) := by
  intro seven
  have hspelled : seven = (List.replicate 4300 '0' ++ ['7']).map .scalar := by
    rw [List.map_append, List.map_replicate]
    rfl
  have hvalue : Nat.ofDigitChars 10 (List.replicate 4300 '0' ++ ['7']) 0 = 7 := by
    rw [← number_eq_ofDigitChars, number_append, number_replicate_zero, Nat.zero_mul, Nat.zero_add]
    rfl
  have hdigits : AllDigits (List.replicate 4300 '0' ++ ['7']) :=
    (allDigits_replicate_zero _).append (List.forall_mem_singleton.2 rfl)
  have hseven : seven.Denotes 7 := by
    have hplain := Denotes.plain (List.append_ne_nil_of_right_ne_nil _ (by decide)) hdigits
    rwa [hvalue, ← hspelled] at hplain
  have hsign : seven.hasMinus = false := hspelled ▸ hasMinus_digits hdigits
  obtain ⟨n, hn, -, hfloat, -, -⟩ := integers_are_kept_unless_padded seven hseven.isSignedInt
  obtain rfl := (hn 7).1 hseven
  have hlong : 4300 < seven.withoutMinus.length := by
    rw [withoutMinus_of_hasMinus hsign, List.length_append, List.length_replicate]
    exact Nat.lt_succ_self _
  have hbelow (j : Nat) : (7 : Int).natAbs < 2 ^ (54 + j) - 2 ^ j := by
    have hpositive : 0 < 2 ^ j := Nat.two_pow_pos j
    have hpower : 2 ^ (54 + j) = 2 ^ 54 * 2 ^ j := Nat.pow_add ..
    show 7 < _
    omega
  have hexponent : 54 + 970 = 1024 := rfl
  have hsmall := hbelow 970
  rw [hexponent] at hsmall
  refine ⟨hseven.isSignedInt, hseven, ?_⟩
  rw [hfloat ⟨hlong, hsmall⟩, hsign]
  rfl

end Argument

end DwmIpc
