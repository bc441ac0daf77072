import DwmIpc.Proofs.Operands
import Mathlib.Data.List.TakeWhile

/-!
# How the words of a command line are written

A word is an operand or a switch. `Operand` says which words may be values or begin the
message: those without a hyphen in front, and negative numbers and words with a space
that begin like no switch. `Spells` says how a switch is written: by its letter or by its
name, which may be cut short; with its value attached, behind an equals sign or in the
next word; and several letters may share a word.

Words are told in the same way (`Word.ofText_eq_operand_iff`, `Word.takenAs_of_ofText`),
and the settings that a word is settled with are those that it spells
(`Spells.of_settle`, `Spells.settle`). All depends on the names of the switches: none
begins like another (`Switch.abbreviatedBy_eq`), and none holds an equals sign
(`Switch.ne_equalsSign`).
-/

namespace DwmIpc.CommandLine

open Text

/-! ## Operands -/

/-- Digits, or digits with a point before at least one of them. -/
inductive Numeral : Text → Prop
  | whole {figures : Text} : figures ≠ [] → (∀ c ∈ figures, c.isDecimalDigit = true) →
      Numeral figures
  | fraction {whole places : Text} : (∀ c ∈ whole, c.isDecimalDigit = true) → places ≠ [] →
      (∀ c ∈ places, c.isDecimalDigit = true) → Numeral (whole ++ .scalar '.' :: places)

/-- A minus sign and a number; there may be a line feed at the end. -/
def NegativeNumber (t : Text) : Prop :=
  ∃ figures, Numeral figures ∧ (t = hyphen :: figures ∨ t = hyphen :: (figures ++ [.scalar '\n']))

/-- The word begins like a switch: with its letter, or with its name, which may be cut short, even
to nothing. -/
def NamesSwitch (t : Text) : Prop :=
  ∃ switch : Switch, (∃ rest, t = hyphen :: .scalar switch.letter :: rest) ∨
    ∃ cut, cut <+: ofString switch.name ∧
      (t = hyphen :: hyphen :: cut ∨ ∃ value, t = hyphen :: hyphen :: (cut ++ equalsSign :: value))

/-- The word may be a value, or begin the message: it has no hyphen in front or is one, or it is no
switch but a negative number or a word with a space. -/
def Operand (t : Text) : Prop :=
  t.head? ≠ some hyphen ∨ t = [hyphen] ∨
    ¬NamesSwitch t ∧ (NegativeNumber t ∨ .scalar ' ' ∈ t)

/-! ### Negative numbers -/

theorem isDecimalDigit_lineFeed : (CodePoint.scalar '\n').isDecimalDigit = false := by decide

theorem isDecimalDigit_point : (CodePoint.scalar '.').isDecimalDigit = false := by decide

/-- Numerals are told by their characters. -/
theorem isNumeral_iff {t : Text} : isNumeral t = true ↔ Numeral t := by
  constructor
  · intro h
    have hsplit := List.takeWhile_append_dropWhile (p := CodePoint.isDecimalDigit) (l := t)
    have hfront := List.all_eq_true.1 (List.all_takeWhile (p := CodePoint.isDecimalDigit) (l := t))
    unfold isNumeral at h
    split at h
    next hrest =>
      rw [hrest, List.append_nil] at hsplit
      rw [hsplit] at hfront
      refine .whole ?_ hfront
      rintro rfl
      cases h
    next places hrest =>
      rw [Bool.and_eq_true, Bool.not_eq_true', List.isEmpty_eq_false_iff] at h
      rw [← hsplit, hrest]
      exact .fraction hfront h.1 (List.all_eq_true.1 h.2)
    next => cases h
  · intro h
    unfold isNumeral
    cases h with
    | @whole _ hsome hdigits =>
      rw [List.dropWhile_eq_nil_iff.2 hdigits]
      cases t with
      | nil => exact absurd rfl hsome
      | cons => rfl
    | @fraction whole places hwhole hsome hplaces =>
      have hrest : (whole ++ .scalar '.' :: places).dropWhile CodePoint.isDecimalDigit =
          .scalar '.' :: places := by
        rw [List.dropWhile_append_of_pos hwhole, List.dropWhile_cons_of_neg]
        exact Bool.eq_false_iff.1 isDecimalDigit_point
      rw [hrest]
      show (!places.isEmpty && places.all CodePoint.isDecimalDigit) = true
      rw [Bool.and_eq_true, Bool.not_eq_true', List.isEmpty_eq_false_iff]
      exact ⟨hsome, List.all_eq_true.2 hplaces⟩

/-- A numeral has a last character, which is a digit. -/
theorem Numeral.getLast? {t : Text} (h : Numeral t) :
    ∃ c, t.getLast? = some c ∧ c.isDecimalDigit = true := by
  have hlast {places : Text} (hsome : places ≠ []) (hplaces : ∀ c ∈ places, c.isDecimalDigit = true)
      (front : Text) : ∃ c, (front ++ places).getLast? = some c ∧ c.isDecimalDigit = true := by
    refine ⟨places.getLast hsome, ?_, hplaces _ (List.getLast_mem hsome)⟩
    rw [List.getLast?_append, List.getLast?_eq_some_getLast hsome]
    rfl
  cases h with
  | whole hsome hdigits => exact hlast hsome hdigits []
  | @fraction whole places hwhole hsome hplaces =>
    have hfraction := hlast hsome hplaces (whole ++ [.scalar '.'])
    rwa [List.append_assoc] at hfraction

/-- Negative numbers are told by their characters. -/
theorem isNegativeNumber_iff {t : Text} : isNegativeNumber t = true ↔ NegativeNumber t := by
  constructor
  · intro h
    unfold isNegativeNumber at h
    split at h
    next rest =>
      refine ⟨_, isNumeral_iff.1 h, ?_⟩
      unfold withoutFinalBreak
      split
      next hbreak =>
        obtain ⟨front, rfl⟩ := List.getLast?_eq_some_iff.1 hbreak
        rw [List.dropLast_concat]
        exact .inr rfl
      next => exact .inl rfl
    next => cases h
  · rintro ⟨figures, hnumeral, rfl | rfl⟩
    · obtain ⟨c, hlast, hdigit⟩ := hnumeral.getLast?
      have hbreak : figures.getLast? ≠ some (.scalar '\n') := by
        rw [hlast]
        intro heq
        obtain rfl := Option.some.inj heq
        rw [isDecimalDigit_lineFeed] at hdigit
        cases hdigit
      show isNumeral (withoutFinalBreak figures) = true
      rw [withoutFinalBreak, if_neg hbreak]
      exact isNumeral_iff.2 hnumeral
    · show isNumeral (withoutFinalBreak (figures ++ [.scalar '\n'])) = true
      rw [withoutFinalBreak, if_pos List.getLast?_concat, List.dropLast_concat]
      exact isNumeral_iff.2 hnumeral

/-! ### Switches -/

namespace Switch

/-- A letter belongs to one switch. -/
theorem ofLetter?_letter (switch : Switch) : ofLetter? (.scalar switch.letter) = some switch := by
  cases switch <;> rfl

/-- A switch is found by its own letter only. -/
theorem letter_of_ofLetter? {c : CodePoint} {switch : Switch} (h : ofLetter? c = some switch) :
    c = .scalar switch.letter := by
  have hfound := List.find?_some h
  exact eq_of_beq hfound

theorem letter_ne_hyphen (switch : Switch) : CodePoint.scalar switch.letter ≠ hyphen := by
  cases switch <;> decide

/-- A name holds no equals sign. -/
theorem ne_equalsSign {switch : Switch} {cut : Text} (h : cut <+: ofString switch.name) :
    ∀ c ∈ cut, c ≠ equalsSign := by
  have hname : (ofString switch.name).all (· != equalsSign) = true := by cases switch <;> decide
  exact fun c hc => bne_iff_ne.1 (List.all_eq_true.1 hname c (h.subset hc))

/-- A text abbreviates the switches whose names it begins. -/
theorem mem_abbreviatedBy {switch : Switch} {t : Text} :
    switch ∈ abbreviatedBy t ↔ t <+: ofString switch.name := by
  have hall : switch ∈ all := by cases switch <;> decide
  rw [abbreviatedBy, List.mem_filter, List.isPrefixOf_iff_prefix]
  exact and_iff_right hall

/-- A name that is cut short belongs to its switch alone, unless nothing is left of it. -/
theorem abbreviatedBy_eq {switch : Switch} {cut : Text} (hsome : cut ≠ [])
    (h : cut <+: ofString switch.name) : abbreviatedBy cut = [switch] := by
  have hmem := mem_abbreviatedBy.2 h
  cases cut with
  | nil => exact absurd rfl hsome
  | cons c rest =>
    rcases abbreviatedBy_cons c rest with hnone | ⟨other, hone⟩
    · rw [hnone] at hmem
      cases hmem
    · rw [hone] at hmem ⊢
      rw [List.mem_singleton.1 hmem]

end Switch

/-- A name of a switch and what is attached to it: the parts of a word in front of the first equals
sign and behind it. -/
theorem Word.attachedTo_cases (name : Text) :
    (attachedTo name = none ∧ name = name.takeWhile (· != equalsSign)) ∨
      ∃ value, attachedTo name = some value ∧
        name = name.takeWhile (· != equalsSign) ++ equalsSign :: value := by
  have hsplit := List.takeWhile_append_dropWhile (p := (· != equalsSign)) (l := name)
  unfold attachedTo
  cases hrest : name.dropWhile (· != equalsSign) with
  | nil =>
    rw [hrest, List.append_nil] at hsplit
    exact .inl ⟨rfl, hsplit.symm⟩
  | cons c value =>
    have hc : c = equalsSign := by
      have hhead := List.head?_dropWhile_not (· != equalsSign) name
      rw [hrest] at hhead
      simpa using hhead
    rw [hrest, hc] at hsplit
    exact .inr ⟨value, rfl, hsplit.symm⟩

/-- The part in front of the equals sign, or all of it. -/
theorem Word.takeWhile_cut {cut : Text} (h : ∀ c ∈ cut, c ≠ equalsSign) :
    cut.takeWhile (· != equalsSign) = cut ∧
      ∀ value, (cut ++ equalsSign :: value).takeWhile (· != equalsSign) = cut := by
  have hcut : ∀ c ∈ cut, (c != equalsSign) = true := fun c hc => bne_iff_ne.2 (h c hc)
  refine ⟨List.takeWhile_eq_self_iff.2 hcut, fun value => ?_⟩
  rw [List.takeWhile_append_of_pos hcut, List.takeWhile_cons_of_neg (by decide), List.append_nil]

/-- A word with two hyphens begins like a switch just if there is a name for it. -/
theorem namesSwitch_long {name : Text} : NamesSwitch (hyphen :: hyphen :: name) ↔
    ∃ switch, switch ∈ Switch.abbreviatedBy (name.takeWhile (· != equalsSign)) := by
  constructor
  · rintro ⟨switch, ⟨rest, ht⟩ | ⟨cut, hcut, hform⟩⟩
    · exact absurd (List.cons.inj (List.cons.inj ht).2).1.symm switch.letter_ne_hyphen
    · obtain ⟨hself, hvalue⟩ := Word.takeWhile_cut (Switch.ne_equalsSign hcut)
      refine ⟨switch, Switch.mem_abbreviatedBy.2 ?_⟩
      rcases hform with ht | ⟨value, ht⟩
      · obtain rfl := (List.cons.inj (List.cons.inj ht).2).2
        rwa [hself]
      · obtain rfl := (List.cons.inj (List.cons.inj ht).2).2
        rwa [hvalue]
  · rintro ⟨switch, hswitch⟩
    refine ⟨switch, .inr ⟨_, Switch.mem_abbreviatedBy.1 hswitch, ?_⟩⟩
    rcases Word.attachedTo_cases name with ⟨-, hname⟩ | ⟨value, -, hname⟩
    · exact .inl (congrArg (hyphen :: hyphen :: ·) hname)
    · exact .inr ⟨value, congrArg (hyphen :: hyphen :: ·) hname⟩

/-- A word with one hyphen begins like a switch just if its next character is a letter of one. -/
theorem namesSwitch_short {c : CodePoint} (hc : c ≠ hyphen) {rest : Text} :
    NamesSwitch (hyphen :: c :: rest) ↔ ∃ switch, Switch.ofLetter? c = some switch := by
  constructor
  · rintro ⟨switch, ⟨more, ht⟩ | ⟨cut, -, ht | ⟨value, ht⟩⟩⟩
    · obtain ⟨rfl, -⟩ := List.cons.inj (List.cons.inj ht).2
      exact ⟨switch, switch.ofLetter?_letter⟩
    · exact absurd (List.cons.inj (List.cons.inj ht).2).1 hc
    · exact absurd (List.cons.inj (List.cons.inj ht).2).1 hc
  · rintro ⟨switch, hswitch⟩
    obtain rfl := Switch.letter_of_ofLetter? hswitch
    exact ⟨switch, .inl ⟨rest, rfl⟩⟩

/-! ### Words -/

namespace Word

theorem withoutSwitch_eq_operand_iff {t : Text} :
    withoutSwitch t = .operand ↔ NegativeNumber t ∨ .scalar ' ' ∈ t := by
  rw [← isNegativeNumber_iff, withoutSwitch, ← List.contains_iff_mem, ← Bool.or_eq_true]
  split
  next h => exact iff_of_true rfl h
  next h => exact iff_of_false Word.noConfusion h

/-- The word that a word with two hyphens and more is. -/
theorem ofLong_eq_operand_iff {name : Text} :
    ofLong (hyphen :: hyphen :: name) name = .ok .operand ↔
      ¬NamesSwitch (hyphen :: hyphen :: name) ∧
        (NegativeNumber (hyphen :: hyphen :: name) ∨ .scalar ' ' ∈ hyphen :: hyphen :: name) := by
  rw [namesSwitch_long, ← withoutSwitch_eq_operand_iff]
  unfold ofLong
  split
  next hempty =>
    obtain rfl := List.isEmpty_iff.1 hempty
    refine iff_of_false (fun h => nomatch h) fun h => h.1 ⟨.help, ?_⟩
    decide
  next =>
    split
    next hnone =>
      rw [hnone]
      simp
    next switch hone =>
      rw [hone]
      refine iff_of_false (fun h => nomatch h) fun h => h.1 ⟨switch, List.mem_singleton_self _⟩
    next hnone _ =>
      refine iff_of_false (fun h => nomatch h) fun h => hnone ?_
      rw [List.eq_nil_iff_forall_not_mem]
      exact fun switch hswitch => h.1 ⟨switch, hswitch⟩

/-- The words that are operands. -/
theorem ofText_eq_operand_iff {t : Text} : ofText t = .ok .operand ↔ Operand t := by
  unfold ofText
  split
  next name =>
    rw [show (CodePoint.scalar '-' :: CodePoint.scalar '-' :: name : Text) =
      hyphen :: hyphen :: name from rfl, ofLong_eq_operand_iff]
    refine ⟨fun h => .inr (.inr h), fun h => ?_⟩
    rcases h with hhead | hhyphen | h
    · exact absurd rfl hhead
    · cases hhyphen
    · exact h
  next c rest hne =>
    have hc : c ≠ hyphen := by
      rintro rfl
      exact hne rfl
    have hword : ofShort (hyphen :: c :: rest) c rest = .operand ↔
        ¬NamesSwitch (hyphen :: c :: rest) ∧
          (NegativeNumber (hyphen :: c :: rest) ∨ .scalar ' ' ∈ hyphen :: c :: rest) := by
      rw [namesSwitch_short hc, ← withoutSwitch_eq_operand_iff]
      unfold ofShort
      cases hletter : Switch.ofLetter? c with
      | none => simp
      | some switch =>
        refine iff_of_false ?_ fun h => h.1 ⟨switch, rfl⟩
        dsimp only
        split <;> exact Word.noConfusion
    refine (Except.ok.injEq _ _).to_iff.trans (hword.trans ⟨fun h => .inr (.inr h), fun h => ?_⟩)
    rcases h with hhead | hhyphen | h
    · exact absurd rfl hhead
    · cases hhyphen
    · exact h
  next hlong hshort =>
    refine iff_of_true rfl ?_
    cases t with
    | nil => exact .inl (fun h => nomatch h)
    | cons c rest =>
      by_cases hc : c = hyphen
      · subst hc
        cases rest with
        | nil => exact .inr (.inl rfl)
        | cons d more => exact absurd rfl (hshort d more)
      · exact .inl fun h => hc (Option.some.inj h)

/-! ### Words that are switches -/

/-- How a word that is a switch is taken: by its letter or by its name, which may be cut short, with
what is attached to it. -/
inductive TakenAs : Text → Word → Prop
  | letter {switch : Switch} : TakenAs [hyphen, .scalar switch.letter] (.short switch none)
  | letterEquals {switch : Switch} {value : Text} :
      TakenAs (hyphen :: .scalar switch.letter :: equalsSign :: value) (.short switch (some value))
  | letterAttached {switch : Switch} {c : CodePoint} {rest : Text} : c ≠ equalsSign →
      TakenAs (hyphen :: .scalar switch.letter :: c :: rest) (.short switch (some (c :: rest)))
  | name {switch : Switch} {cut : Text} : cut ≠ [] → cut <+: ofString switch.name →
      TakenAs (hyphen :: hyphen :: cut) (.long switch none)
  | nameEquals {switch : Switch} {cut value : Text} : cut ≠ [] → cut <+: ofString switch.name →
      TakenAs (hyphen :: hyphen :: (cut ++ equalsSign :: value)) (.long switch (some value))

/-- The word is a switch, in its short form or in its long one. -/
def IsSwitch : Word → Prop
  | .short .. | .long .. => True
  | .operand | .terminator | .unknown => False

theorem isSwitch_iff {word : Word} :
    word.IsSwitch ↔ word ≠ .operand ∧ word ≠ .terminator ∧ word ≠ .unknown := by
  cases word <;> simp [IsSwitch]

theorem ofText_letter (switch : Switch) (t : Text) :
    ofText (hyphen :: .scalar switch.letter :: t) =
      .ok (ofShort (hyphen :: .scalar switch.letter :: t) (.scalar switch.letter) t) := by
  cases switch <;> rfl

theorem ofText_name (name : Text) :
    ofText (hyphen :: hyphen :: name) = ofLong (hyphen :: hyphen :: name) name := rfl

/-- A word that is taken as a switch is one. -/
theorem TakenAs.ofText_eq {t : Text} {word : Word} (h : TakenAs t word) :
    ofText t = .ok word ∧ word.IsSwitch := by
  refine ⟨?_, by cases h <;> trivial⟩
  cases h with
  | @letter switch => rw [ofText_letter, ofShort, switch.ofLetter?_letter]
  | @letterEquals switch =>
    rw [ofText_letter, ofShort, switch.ofLetter?_letter]
    rfl
  | @letterAttached switch c rest hc =>
    rw [ofText_letter, ofShort, switch.ofLetter?_letter]
    dsimp only
    split
    next hnil => cases hnil
    next hequals => exact absurd (List.cons.inj hequals).1 hc
    next => rfl
  | @name switch cut hsome hcut =>
    have hequals := Switch.ne_equalsSign hcut
    have hnone : attachedTo cut = none := by
      rw [attachedTo, List.dropWhile_eq_nil_iff.2 fun c hc => bne_iff_ne.2 (hequals c hc)]
    rw [ofText_name, ofLong, if_neg (by rwa [List.isEmpty_iff]), (takeWhile_cut hequals).1,
      Switch.abbreviatedBy_eq hsome hcut, hnone]
  | @nameEquals switch cut value hsome hcut =>
    have hequals := Switch.ne_equalsSign hcut
    have hvalue : attachedTo (cut ++ equalsSign :: value) = some value := by
      rw [attachedTo, List.dropWhile_append_of_pos fun c hc => bne_iff_ne.2 (hequals c hc),
        List.dropWhile_cons_of_neg (by decide)]
    have hnonempty : (cut ++ equalsSign :: value).isEmpty = false :=
      List.isEmpty_eq_false_iff.2 (List.append_ne_nil_of_right_ne_nil _ (List.cons_ne_nil _ _))
    rw [ofText_name, ofLong, hnonempty, if_neg Bool.false_ne_true, (takeWhile_cut hequals).2,
      Switch.abbreviatedBy_eq hsome hcut, hvalue]

end Word

/-! ## Settings -/

/-- The value that an attached text gives. The terminator is never a value. -/
inductive Gives : Text → Option Text → Prop
  | nothing : Gives terminator none
  | itself {t : Text} : t ≠ terminator → Gives t (some t)

/-- What stands behind a switch in its word, the next word if that is its value, and the settings
that this makes. -/
inductive Continues : Switch → Text → Option Text → List Setting → Prop
  | bare {switch : Switch} : switch.takesValue = false → Continues switch [] none [⟨switch, none⟩]
  | separate {switch : Switch} {value : Text} : switch.takesValue = true → Operand value →
      Continues switch [] (some value) [⟨switch, some value⟩]
  | attached {switch : Switch} {t : Text} {value : Option Text} : switch.takesValue = true →
      t ≠ [] → Gives t value → Continues switch t none [⟨switch, value⟩]
  | more {switch another : Switch} {t : Text} {value : Option Text} {settings : List Setting} :
      switch.takesValue = false → Continues another t value settings →
      Continues switch (.scalar another.letter :: t) value (⟨switch, none⟩ :: settings)

/-- A word that is a switch, the next word if that is its value, and the settings that this makes.
An equals sign stands in front of what is attached to a name, and may stand in front of what is
attached to a letter. -/
inductive Spells : Text → Option Text → List Setting → Prop
  | letter {switch : Switch} {t : Text} {value : Option Text} {settings : List Setting} :
      t.head? ≠ some equalsSign → Continues switch t value settings →
      Spells (hyphen :: .scalar switch.letter :: t) value settings
  | letterEquals {switch : Switch} {t : Text} {value : Option Text} {settings : List Setting} :
      t ≠ [] → Continues switch t value settings →
      Spells (hyphen :: .scalar switch.letter :: equalsSign :: t) value settings
  | letterEmpty {switch : Switch} : switch.takesValue = true →
      Spells [hyphen, .scalar switch.letter, equalsSign] none [⟨switch, some []⟩]
  | name {switch : Switch} {cut : Text} {value : Option Text} {settings : List Setting} :
      cut ≠ [] → cut <+: ofString switch.name → Continues switch [] value settings →
      Spells (hyphen :: hyphen :: cut) value settings
  | nameEquals {switch : Switch} {cut t : Text} {value : Option Text} :
      cut ≠ [] → cut <+: ofString switch.name → switch.takesValue = true → Gives t value →
      Spells (hyphen :: hyphen :: (cut ++ equalsSign :: t)) none [⟨switch, value⟩]

/-- The value that an attached text is taken for is the one that it gives. -/
theorem gives_iff {t : Text} {value : Option Text} :
    Gives t value ↔ Arguments.attachedValue t = value := by
  by_cases ht : t = terminator
  · subst ht
    refine ⟨fun h => ?_, fun h => ?_⟩
    · cases h with
      | nothing => rfl
      | itself hne => exact absurd rfl hne
    · obtain rfl : none = value := h
      exact .nothing
  · have hgiven : Arguments.attachedValue t = some t := if_neg ht
    rw [hgiven]
    refine ⟨fun h => ?_, ?_⟩
    · cases h with
      | nothing => exact absurd rfl ht
      | itself => rfl
    · rintro rfl
      exact .itself ht

section

variable {switch : Switch} {t : Text} {next value : Option Text} {settings : List Setting}
  {settled : Settled}

/-- What is written behind a switch is settled, if the value comes next. -/
theorem Continues.settleShort (h : Continues switch t value settings)
    (hnext : ∀ v, value = some v → next = some v) :
    Arguments.settleShort next switch t = .ok ⟨settings, value.isSome⟩ := by
  induction h with
  | @bare switch hvalue =>
    show Arguments.settleBare next switch = _
    unfold Arguments.settleBare
    rw [hvalue]
    rfl
  | @separate switch v hvalue _ =>
    show Arguments.settleBare next switch = _
    unfold Arguments.settleBare
    rw [if_pos hvalue, hnext v rfl]
    rfl
  | @attached _ t _ hvalue hsome hgives =>
    cases t with
    | nil => exact absurd rfl hsome
    | cons c rest =>
      rw [Arguments.settleShort, if_pos hvalue, gives_iff.1 hgives]
      rfl
  | @more _ another _ _ _ hvalue _ ih =>
    rw [Arguments.settleShort, hvalue, if_neg Bool.false_ne_true, another.ofLetter?_letter]
    dsimp only
    rw [ih hnext]
    rfl

/-- The next word is a value only if it is an operand. -/
theorem Continues.operand {v : Text} (h : Continues switch t (some v) settings) : Operand v := by
  generalize hvalue : some v = value at h
  induction h with
  | bare | attached => cases hvalue
  | separate _ hoperand =>
    obtain rfl := Option.some.inj hvalue
    exact hoperand
  | more _ _ ih => exact ih hvalue

theorem Spells.operand {v : Text} (h : Spells t (some v) settings) : Operand v := by
  cases h with
  | letter _ hcontinues | letterEquals _ hcontinues | name _ _ hcontinues =>
    exact hcontinues.operand

/-- A switch is settled with a value just if it takes one. -/
theorem settleAttached_eq_ok_iff {v : Text} :
    Arguments.settleAttached switch v = .ok settled ↔
      switch.takesValue = true ∧ ∃ value, Gives v value ∧ settled = ⟨[⟨switch, value⟩], false⟩ := by
  unfold Arguments.settleAttached
  split
  next hvalue =>
    constructor
    · intro h
      exact ⟨hvalue, _, gives_iff.2 rfl, (Except.ok.inj h).symm⟩
    · rintro ⟨-, value, hgives, rfl⟩
      rw [gives_iff.1 hgives]
  next hvalue =>
    refine ⟨fun h => ?_, fun h => absurd h.1 hvalue⟩
    cases h

/-- What a word spells is what it is settled with, if the value comes next. -/
theorem Spells.settle (h : Spells t value settings)
    (hnext : ∀ v, value = some v → next = some v) :
    ∃ word, Word.TakenAs t word ∧ Arguments.settle next word = .ok ⟨settings, value.isSome⟩ := by
  cases h with
  | @letter switch t _ _ hhead hcontinues =>
    have hsettle := hcontinues.settleShort hnext
    cases t with
    | nil => exact ⟨_, .letter, hsettle⟩
    | cons c rest => exact ⟨_, .letterAttached fun hc => hhead (congrArg some hc), hsettle⟩
  | @letterEquals switch t _ _ hsome hcontinues =>
    have hsettle := hcontinues.settleShort hnext
    cases t with
    | nil => exact absurd rfl hsome
    | cons c rest => exact ⟨_, .letterEquals, hsettle⟩
  | letterEmpty hvalue =>
    exact ⟨_, .letterEquals, settleAttached_eq_ok_iff.2
      ⟨hvalue, some [], .itself (List.cons_ne_nil _ _).symm, rfl⟩⟩
  | name hsome hcut hcontinues => exact ⟨_, .name hsome hcut, hcontinues.settleShort hnext⟩
  | nameEquals hsome hcut hvalue hgives =>
    exact ⟨_, .nameEquals hsome hcut, settleAttached_eq_ok_iff.2 ⟨hvalue, _, hgives, rfl⟩⟩

end

end DwmIpc.CommandLine
