import DwmIpc.Log
import DwmIpc.Proofs.Utf8
import Mathlib.Data.Bool.AllAny
import Mathlib.Data.List.Forall2

/-!
# The names of levels

A level goes by its name, in which any letters may be capitals (`Text.IsUpToCase`), and
by nothing else (`Level.ofText?_eq_some`). Lower case goes by the rules of Unicode, which
make small letters of ASCII from two more signs. But the Kelvin sign becomes a `k`,
which no level has in its name, and the dotted capital I keeps its dot, which no name
has either.
-/

namespace DwmIpc

/-- The text is this one, in which any letters may have become capitals. -/
def Text.IsUpToCase (t : Text) (s : List Char) : Prop :=
  List.Forall₂ (fun c letter => c = .scalar letter ∨ c = .scalar letter.toUpper) t s

namespace CodePoint

/-! ## Small letters -/

/-- The small letters of ASCII but `k`. -/
def plainLetters : List Char := "abcdefghijlmnopqrstuvwxyz".toList

variable {c : CodePoint} {letter : Char}

/-- Plain letters are small letters of the alphabet other than k. -/
theorem toNat_plainLetters : ∀ letter ∈ plainLetters, 0x61 ≤ letter.toNat ∧ letter.toNat ≤ 0x7A ∧
    letter.toNat ≠ 0x6B ∧ letter.toUpper.toNat = letter.toNat - 0x20 :=
  List.all_iff_forall_prop.1 (by decide)

/-- One row of the table leads to the letters of ASCII, and one sign more becomes a `k`. -/
theorem smallLetters_cases : ∀ row ∈ smallLetters.toList, row = (0x41, 0x5A, 1, 0x61) ∨
    0x7A < row.2.2.2 ∨ row.2.2.2 = 0x6B ∧ row.1 = row.2.1 := by
  decide +kernel

/-- A plain letter, whether large or small, is made small to itself. -/
theorem small_plainLetters : ∀ letter ∈ plainLetters,
    (scalar letter).small = scalar letter ∧ (scalar letter.toUpper).small = scalar letter :=
  List.all_iff_forall_prop.1 (by decide +kernel)

/-- The character of a number has that number, or else it is zero. -/
theorem ofNat_eq_scalar {n : Nat} (h : ofNat n = .scalar letter) :
    letter.toNat = n ∨ letter.toNat = 0 := by
  unfold ofNat at h
  split at h
  next => cases h
  next hscalar =>
    obtain rfl : Char.ofNat n = letter := scalar.inj h
    by_cases hlast : n < 0x110000
    · exact .inl (Utf8.toNat_ofNat_char (by omega))
    · refine .inr ?_
      rw [Char.ofNat, dif_neg fun hvalid : n < 0xD800 ∨ 0xDFFF < n ∧ n < 0x110000 => by omega]
      rfl

/-- Only its own capital and the letter itself become one of these letters. -/
theorem small_eq_scalar (hletter : letter ∈ plainLetters) :
    c.small = .scalar letter ↔ c = .scalar letter ∨ c = .scalar letter.toUpper := by
  constructor
  · intro h
    obtain ⟨hlow, hhigh, hkelvin, hupper⟩ := toNat_plainLetters letter hletter
    unfold small at h
    dsimp only at h
    split at h
    next first last step small hfind =>
      have hrow := smallLetters_cases _ (Array.mem_toList_iff.2 (Array.mem_of_find?_eq_some hfind))
      have hrange := Array.find?_some hfind
      simp only [Bool.and_eq_true, decide_eq_true_eq] at hrange
      have hvalue := ofNat_eq_scalar h
      rcases hrow with hrow | hrow | hrow
      · obtain ⟨rfl, rfl, rfl, rfl⟩ : first = 0x41 ∧ last = 0x5A ∧ step = 1 ∧ small = 0x61 := by
          simpa using hrow
        right
        cases c with
        | scalar char =>
          refine congrArg scalar (Char.toNat_inj.1 ?_)
          simp only [toNat] at hrange hvalue
          omega
        | surrogate offset =>
          simp only [toNat] at hrange
          omega
      · dsimp only at hrow
        omega
      · dsimp only at hrow
        omega
    next => exact .inl h
  · obtain ⟨hletter, hcapital⟩ := small_plainLetters letter hletter
    rintro (rfl | rfl)
    · exact hletter
    · exact hcapital

end CodePoint

namespace Text

open CodePoint

/-! ## Lower case -/

variable {before rest t : Text} {c : CodePoint} {letter : Char} {s : List Char}

theorem lowerFrom_append (done before t : Text) :
    lowerFrom done before t = done.reverse ++ lowerFrom [] before t := by
  induction t generalizing done before with
  | nil => exact (List.append_nil _).symm
  | cons c rest ih =>
    rw [lowerFrom, lowerFrom, ih, ih (_ ++ []), List.reverse_append, List.append_nil,
      List.append_assoc]

/-- The first character, and the rest with it before. -/
theorem lowerFrom_cons (before : Text) (c : CodePoint) (rest : Text) :
    lowerFrom [] before (c :: rest) =
      lowerAt before c rest ++ lowerFrom [] (c :: before) rest := by
  rw [lowerFrom, lowerFrom_append, List.append_nil, List.reverse_reverse]

/-- No character vanishes. -/
theorem lowerAt_ne_nil : lowerAt before c rest ≠ [] := by
  unfold lowerAt
  split
  · exact List.cons_ne_nil _ _
  · split <;> exact List.cons_ne_nil _ _

/-- The lower case of a sign ends up as letters only if it is one letter. -/
theorem lowerAt_append_eq {more : Text} (hs : ∀ l ∈ letter :: s, l ∈ plainLetters) :
    lowerAt before c rest ++ more = (letter :: s).map .scalar ↔
      (c = .scalar letter ∨ c = .scalar letter.toUpper) ∧ more = s.map .scalar := by
  have hletter := hs letter (List.mem_cons_self ..)
  have hascii (h : c = .scalar letter ∨ c = .scalar letter.toUpper) : c.toNat ≤ 0x7A := by
    obtain ⟨-, hhigh, -, hupper⟩ := toNat_plainLetters letter hletter
    rcases h with rfl | rfl <;> simp only [CodePoint.toNat] <;> omega
  rw [List.map_cons]
  unfold lowerAt
  split
  next hdotted =>
    refine iff_of_false (fun h => ?_) fun h => ?_
    · -- the dot would have to be among the letters
      have hrest : CodePoint.scalar '\u0307' :: more = s.map .scalar := (List.cons.inj h).2
      obtain ⟨dot, hdot, heq⟩ := List.mem_map.1 (hrest ▸ List.mem_cons_self ..)
      obtain rfl := scalar.inj heq
      exact absurd (hs _ (List.mem_cons_of_mem _ hdot)) (by decide)
    · exact absurd (hascii h.1) (by rw [hdotted]; decide)
  next =>
    split
    next hsigma =>
      refine iff_of_false (fun h => ?_) fun h => ?_
      · obtain rfl := scalar.inj (List.cons.inj h).1
        revert hletter
        split <;> decide
      · exact absurd (hascii h.1) (by rw [hsigma]; decide)
    next => rw [List.singleton_append, List.cons.injEq, small_eq_scalar hletter]

/-- A text is a word in lower case just if it is that word with any letters as capitals. -/
theorem lowerFrom_eq_iff (hs : ∀ letter ∈ s, letter ∈ plainLetters) :
    lowerFrom [] before t = s.map .scalar ↔ t.IsUpToCase s := by
  induction t generalizing before s with
  | nil =>
    cases s with
    | nil => exact iff_of_true rfl .nil
    | cons letter s => exact iff_of_false (fun h => nomatch h) fun h => nomatch h
  | cons c rest ih =>
    cases s with
    | nil =>
      refine iff_of_false (fun h => ?_) fun h => nomatch h
      rw [lowerFrom_cons] at h
      exact lowerAt_ne_nil (List.append_eq_nil_iff.1 h).1
    | cons letter s =>
      have hletters : ∀ l ∈ s, l ∈ plainLetters := fun l hl => hs l (List.mem_cons_of_mem _ hl)
      rw [lowerFrom_cons, lowerAt_append_eq hs, ih hletters, IsUpToCase, IsUpToCase,
        List.forall₂_cons]

end Text

namespace Level

variable {t : Text} {level : Level}

/-- The names of the levels are written in plain letters. -/
theorem plain_name (level : Level) : ∀ letter ∈ level.name.toList,
    letter ∈ CodePoint.plainLetters :=
  List.all_iff_forall_prop.1 (by cases level <;> decide)

/-- A level is found by its name in small letters. -/
theorem ofText?_eq_some_iff_lowerCase :
    ofText? t = some level ↔ t.lowerCase = Text.ofString level.name := by
  constructor
  · intro h
    unfold ofText? at h
    exact eq_of_beq (List.find?_some h :)
  · intro h
    rw [ofText?, h]
    cases level <;> decide

/-- A text names a level just if it is the name of the level with any letters as capitals. -/
theorem ofText?_eq_some : ofText? t = some level ↔ t.IsUpToCase level.name.toList :=
  ofText?_eq_some_iff_lowerCase.trans (Text.lowerFrom_eq_iff level.plain_name)

end Level

end DwmIpc
