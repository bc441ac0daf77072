import DwmIpc.Proofs.Tasks

/-!
# Behind the first operand

The first operand of a command line and all words behind it are the message, whatever
they look like (`Arguments.parse_operand`). The switches in front of it say what they
say alone: going through them comes to the same, whatever follows
(`Arguments.ofWords_append`).

One thing can get in the way, since all words are classified before any is used. A
word such as `--=x` is an abbreviation of every switch, so that the command line is
refused for it, unless the terminator is in front of it (`classify_eq`). It is the
only kind of word that is not classified: the names of the switches begin with
different letters (`Switch.abbreviatedBy_cons`).
-/

namespace DwmIpc.CommandLine

open Text

/-! ## Words -/

/-- The terminator `--`. -/
def terminator : Text := [hyphen, hyphen]

/-- Does a word abbreviate every switch? -/
def isBareValue (t : Text) : Bool :=
  t.startsWith "--="

/-- The word that makes a command line ambiguous, if there is one: the first bare value that no
terminator is in front of. -/
def ambiguity? (words : List Text) : Option Text :=
  (words.takeWhile (· != terminator)).find? isBareValue

/-- Names that begin with the same letter belong to one switch. -/
theorem Switch.pairwise_all :
    all.Pairwise fun a b => (ofString a.name).head? ≠ (ofString b.name).head? := by
  decide

/-- One letter of a name is enough. -/
theorem Switch.abbreviatedBy_cons (c : CodePoint) (t : Text) :
    abbreviatedBy (c :: t) = [] ∨ ∃ switch, abbreviatedBy (c :: t) = [switch] := by
  have hhead : ∀ switch ∈ abbreviatedBy (c :: t), (ofString switch.name).head? = some c := by
    intro switch hswitch
    have hstarts := (List.mem_filter.1 hswitch).2
    obtain ⟨rest, hname⟩ := List.isPrefixOf_iff_prefix.1 hstarts
    rw [← hname]
    rfl
  have hpairwise := pairwise_all.filter fun switch => (c :: t).isPrefixOf (ofString switch.name)
  change (abbreviatedBy (c :: t)).Pairwise _ at hpairwise
  cases hfound : abbreviatedBy (c :: t) with
  | nil => exact .inl rfl
  | cons first more =>
    cases more with
    | nil => exact .inr ⟨first, rfl⟩
    | cons second more =>
      rw [hfound] at hpairwise hhead
      have hdiffer := (List.pairwise_cons.1 hpairwise).1 second (List.mem_cons_self ..)
      have hfirst := hhead first (List.mem_cons_self ..)
      have hsecond := hhead second (List.mem_cons_of_mem _ (List.mem_cons_self ..))
      exact absurd (hfirst.trans hsecond.symm) hdiffer

theorem Word.withoutSwitch_ne (t : Text) : withoutSwitch t ≠ .terminator := by
  unfold withoutSwitch
  split <;> exact Word.noConfusion

/-- A word with two hyphens and more. -/
theorem Word.ofLong_cases (t : Text) (c : CodePoint) (rest : Text) :
    (c = equalsSign ∧ ofLong t (c :: rest) = .error (.ambiguous t Switch.all)) ∨
      c ≠ equalsSign ∧ ∃ word, ofLong t (c :: rest) = .ok word ∧ word ≠ .terminator := by
  unfold ofLong
  rw [List.isEmpty_cons, if_neg Bool.false_ne_true]
  by_cases hequals : c = equalsSign
  · refine .inl ⟨hequals, ?_⟩
    subst hequals
    rfl
  · refine .inr ⟨hequals, ?_⟩
    have hstarts : (c :: rest).takeWhile (· != equalsSign) =
        c :: rest.takeWhile (· != equalsSign) :=
      List.takeWhile_cons_of_pos (bne_iff_ne.2 hequals)
    rw [hstarts]
    rcases Switch.abbreviatedBy_cons c (rest.takeWhile (· != equalsSign)) with
      hnone | ⟨switch, hone⟩
    · rw [hnone]
      exact ⟨_, rfl, withoutSwitch_ne t⟩
    · rw [hone]
      exact ⟨_, rfl, Word.noConfusion⟩

/-- A bare value has an equals sign right behind the hyphens. -/
theorem isBareValue_iff {t : Text} :
    isBareValue t = true ↔ ∃ rest, t = hyphen :: hyphen :: equalsSign :: rest := by
  rw [isBareValue, startsWith, List.isPrefixOf_iff_prefix]
  constructor
  · rintro ⟨rest, rfl⟩
    exact ⟨rest, rfl⟩
  · rintro ⟨rest, rfl⟩
    exact ⟨rest, rfl⟩

theorem Word.ofShort_ne (t : Text) (c : CodePoint) (rest : Text) :
    ofShort t c rest ≠ .terminator := by
  unfold ofShort
  split
  · exact withoutSwitch_ne t
  · split <;> exact Word.noConfusion

/-- A word is the terminator, a bare value, or classified as something else. -/
theorem Word.ofText_cases (t : Text) :
    (t = CommandLine.terminator ∧ ofText t = .ok .terminator) ∨
      (isBareValue t = true ∧ ofText t = .error (.ambiguous t Switch.all)) ∨
      isBareValue t = false ∧ t ≠ CommandLine.terminator ∧
        ∃ word, ofText t = .ok word ∧ word ≠ .terminator := by
  have hother (h : ∀ name, t ≠ hyphen :: hyphen :: name) :
      isBareValue t = false ∧ t ≠ CommandLine.terminator := by
    refine ⟨?_, h []⟩
    rw [Bool.eq_false_iff]
    intro hbare
    obtain ⟨rest, ht⟩ := isBareValue_iff.1 hbare
    exact h _ ht
  unfold ofText
  split
  next name =>
    cases name with
    | nil => exact .inl ⟨rfl, rfl⟩
    | cons c rest =>
      rcases ofLong_cases (hyphen :: hyphen :: c :: rest) c rest with
        ⟨rfl, hambiguous⟩ | ⟨hne, hword⟩
      · exact .inr (.inl ⟨isBareValue_iff.2 ⟨rest, rfl⟩, hambiguous⟩)
      · refine .inr (.inr ⟨?_, ?_, hword⟩)
        · rw [Bool.eq_false_iff]
          intro hbare
          obtain ⟨more, ht⟩ := isBareValue_iff.1 hbare
          exact hne (List.cons.inj (List.cons.inj (List.cons.inj ht).2).2).1
        · intro ht
          cases (List.cons.inj (List.cons.inj ht).2).2
  next c rest hne =>
    obtain ⟨hbare, hterminator⟩ := hother fun name ht => by
      obtain ⟨rfl, -⟩ := List.cons.inj (List.cons.inj ht).2
      exact hne rfl
    exact .inr (.inr ⟨hbare, hterminator, _, rfl, ofShort_ne _ c rest⟩)
  next hne _ =>
    obtain ⟨hbare, hterminator⟩ := hother fun name ht => hne name ht
    exact .inr (.inr ⟨hbare, hterminator, .operand, rfl, Word.noConfusion⟩)

section

variable {t : Text} (rest : List Text)

theorem classify_misuse {misuse : Misuse} (h : Word.ofText t = .error misuse) :
    classify (t :: rest) = .error misuse := by
  rw [classify, h]

/-- Behind the terminator there are operands only. -/
theorem classify_terminator (h : Word.ofText t = .ok .terminator) :
    classify (t :: rest) = .ok ((.terminator, t) :: rest.map fun u => (.operand, u)) := by
  rw [classify, h]

/-- Other words are classified one by one. -/
theorem classify_word {word : Word} (h : Word.ofText t = .ok word) (hne : word ≠ .terminator) :
    classify (t :: rest) = (classify rest).map ((word, t) :: ·) := by
  rw [classify, h]
  cases word with
  | terminator => exact absurd rfl hne
  | _ => rfl

end

/-- The first word is ambiguous, or the first one of the rest. -/
theorem ambiguity?_cons {t : Text} (rest : List Text) (hne : t ≠ terminator) :
    ambiguity? (t :: rest) = if isBareValue t then some t else ambiguity? rest := by
  have htake : (t :: rest).takeWhile (· != terminator) = t :: rest.takeWhile (· != terminator) := by
    rw [List.takeWhile_cons, if_pos (bne_iff_ne.2 hne)]
  rw [ambiguity?, htake, List.find?_cons, ambiguity?]
  cases isBareValue t <;> rfl

/-- The words of a command line are classified unless one of them is ambiguous. -/
theorem classify_cases (words : List Text) :
    (∃ t, ambiguity? words = some t ∧ classify words = .error (.ambiguous t Switch.all)) ∨
      ambiguity? words = none ∧ ∃ classified, classify words = .ok classified := by
  induction words with
  | nil => exact .inr ⟨rfl, _, rfl⟩
  | cons t rest ih =>
    rcases Word.ofText_cases t with
      ⟨rfl, hword⟩ | ⟨hbare, hword⟩ | ⟨hbare, hne, word, hword, hterminator⟩
    · -- behind the terminator there is nothing to classify
      exact .inr ⟨rfl, _, classify_terminator rest hword⟩
    · have hne : t ≠ terminator := by
        rintro rfl
        cases hbare
      refine .inl ⟨t, ?_, classify_misuse rest hword⟩
      rw [ambiguity?_cons rest hne, if_pos hbare]
    · rw [ambiguity?_cons rest hne, if_neg (Bool.eq_false_iff.1 hbare),
        classify_word rest hword hterminator]
      rcases ih with ⟨u, hfound, herror⟩ | ⟨hnone, classified, hok⟩
      · exact .inl ⟨u, hfound, by rw [herror]; rfl⟩
      · exact .inr ⟨hnone, _, by rw [hok]; rfl⟩

/-- Up to a terminator, words are classified one by one. -/
theorem classify_append {front rest : List Text} {classified : List (Word × Text)}
    (h : classify front = .ok classified) (hnone : ∀ x ∈ classified, x.1 ≠ .terminator) :
    classify (front ++ rest) = (classify rest).map (classified ++ ·) := by
  induction front generalizing classified with
  | nil =>
    obtain rfl : [] = classified := Except.ok.inj h
    show classify rest = (classify rest).map id
    cases classify rest <;> rfl
  | cons t front ih =>
    cases hword : Word.ofText t with
    | error misuse => cases h.symm.trans (classify_misuse front hword)
    | ok word =>
      by_cases hterminator : word = .terminator
      · subst hterminator
        obtain rfl := Except.ok.inj (h.symm.trans (classify_terminator front hword))
        exact absurd rfl (hnone _ (List.mem_cons_self ..))
      · rw [classify_word front hword hterminator] at h
        rw [List.cons_append, classify_word _ hword hterminator]
        cases hfront : classify front with
        | error misuse =>
          rw [hfront] at h
          cases h
        | ok more =>
          rw [hfront] at h
          obtain rfl := Except.ok.inj h
          rw [ih hfront fun x hx => hnone x (List.mem_cons_of_mem _ hx)]
          cases classify rest <;> rfl

/-! ## What the words say -/

namespace Arguments

variable {arguments result : Arguments} {unrecognized unknown : List Text}

/-- A switch that is settled without a next word does not use one. -/
theorem settleBare_none {switch : Switch} {settled : Settled}
    (h : settleBare none switch = .ok settled) (next : Option Text) :
    settleBare next switch = .ok settled ∧ settled.usesNext = false := by
  unfold settleBare at h ⊢
  split at h
  next => cases h
  next hvalue =>
    rw [if_neg hvalue]
    exact ⟨h, by rw [← Except.ok.inj h]⟩

/-- The same holds for letters that share a word. -/
theorem settleShort_none {switch : Switch} {attached : Text} {settled : Settled}
    (h : settleShort none switch attached = .ok settled) (next : Option Text) :
    settleShort next switch attached = .ok settled ∧ settled.usesNext = false := by
  induction attached generalizing switch settled with
  | nil => exact settleBare_none h next
  | cons c rest ih =>
    unfold settleShort at h ⊢
    split at h
    next hvalue =>
      rw [if_pos hvalue]
      exact ⟨h, by rw [← Except.ok.inj h]⟩
    next hvalue =>
      rw [if_neg hvalue]
      split at h
      next => cases h
      next another _ =>
        cases hmore : settleShort none another rest with
        | error misuse =>
          rw [hmore] at h
          cases h
        | ok more =>
          rw [hmore] at h
          obtain ⟨hsame, hunused⟩ := ih hmore
          rw [hsame]
          exact ⟨h, by rw [← Except.ok.inj h]; exact hunused⟩

/-- A value that is attached leaves the next word alone. -/
theorem settleAttached_usesNext {switch : Switch} {value : Text} {settled : Settled}
    (h : settleAttached switch value = .ok settled) : settled.usesNext = false := by
  unfold settleAttached at h
  split at h
  next => rw [← Except.ok.inj h]
  next => cases h

/-- A word that needs no value means the same whatever follows. -/
theorem settle_none {word : Word} {settled : Settled} (h : settle none word = .ok settled)
    (next : Option Text) : settle next word = .ok settled ∧ settled.usesNext = false := by
  cases word with
  | short switch attached =>
    cases attached with
    | none => exact settleBare_none h next
    | some attached =>
      cases attached with
      | nil => exact ⟨h, settleAttached_usesNext h⟩
      | cons c rest => exact settleShort_none h next
  | long switch attached =>
    cases attached with
    | none => exact settleBare_none h next
    | some attached => exact ⟨h, settleAttached_usesNext h⟩
  | operand | terminator | unknown => exact ⟨h, by rw [← Except.ok.inj h]⟩

/-- A switch is carried out, and the words behind it and its value come next. -/
theorem ofWords_switch {word : Word} {t : Text} {rest : List (Word × Text)} {settled : Settled}
    {changed : Arguments} (hoperand : word ≠ .operand) (hterminator : word ≠ .terminator)
    (hunknown : word ≠ .unknown) (hsettle : settle (nextOperand rest) word = .ok settled)
    (hset : settled.settings.foldlM set arguments = .ok changed) :
    ofWords arguments unrecognized ((word, t) :: rest) =
      ofWords changed unrecognized (if settled.usesNext then rest.tail else rest) := by
  cases word with
  | operand => exact absurd rfl hoperand
  | terminator => exact absurd rfl hterminator
  | unknown => exact absurd rfl hunknown
  | short switch attached | long switch attached => simp only [ofWords, hsettle, hset]

/-- What a switch is settled with is the next word if it uses that, and nothing else. -/
theorem settle_append {word : Word} {rest : List (Word × Text)} {settled : Settled}
    (h : settle (nextOperand rest) word = .ok settled) (more : List (Word × Text)) :
    settle (nextOperand (rest ++ more)) word = .ok settled ∧
      (if settled.usesNext then (rest ++ more).tail else rest ++ more) =
        (if settled.usesNext then rest.tail else rest) ++ more := by
  cases rest with
  | nil =>
    obtain ⟨hsame, hunused⟩ := settle_none h (nextOperand more)
    rw [hunused]
    exact ⟨hsame, rfl⟩
  | cons x rest =>
    have hnext : nextOperand (x :: rest ++ more) = nextOperand (x :: rest) := by
      obtain ⟨word, t⟩ := x
      cases word <;> rfl
    rw [hnext]
    refine ⟨h, ?_⟩
    split <;> rfl

/-- To go through words without an operand comes to the same, whatever follows. -/
theorem ofWords_append {words : List (Word × Text)}
    (h : ofWords arguments unrecognized words = .ok (result, unknown)) (hnone : result.message = [])
    (more : List (Word × Text)) :
    ofWords arguments unrecognized (words ++ more) = ofWords result unknown more := by
  fun_induction ofWords arguments unrecognized words with
  | case1 arguments unrecognized =>
    obtain ⟨rfl, rfl⟩ := Prod.mk.inj (Except.ok.inj h)
    rfl
  | case2 arguments unrecognized t rest ih =>
    rw [List.cons_append, ofWords]
    exact ih h
  | case3 | case4 =>
    obtain ⟨rfl, -⟩ := Prod.mk.inj (Except.ok.inj h)
    cases hnone
  | case5 | case6 => cases h
  | case7 arguments unrecognized word t rest hunknown hoperand hterminator settled hsettle changed
      hset ih =>
    obtain ⟨hsame, hrest⟩ := settle_append hsettle more
    rw [List.cons_append, ofWords_switch hoperand hterminator hunknown hsame hset, hrest]
    exact ih h

/-- Only an operand is used up as a value. -/
theorem operand_of_usesNext {word : Word} {rest : List (Word × Text)} {settled : Settled}
    (h : settle (nextOperand rest) word = .ok settled) (huses : settled.usesNext = true) :
    ∃ t more, rest = (.operand, t) :: more := by
  have hsome : nextOperand rest ≠ none := by
    intro hnext
    rw [hnext] at h
    exact absurd huses (Bool.eq_false_iff.1 (settle_none h none).2)
  unfold nextOperand at hsome
  split at hsome
  next t more => exact ⟨t, more, rfl⟩
  next => exact absurd rfl hsome

/-- Words without an operand are without the terminator, too. -/
theorem not_terminator_of_ofWords {words : List (Word × Text)}
    (h : ofWords arguments unrecognized words = .ok (result, unknown))
    (hnone : result.message = []) :
    ∀ x ∈ words, x.1 ≠ .terminator := by
  fun_induction ofWords arguments unrecognized words with
  | case1 arguments unrecognized => exact fun x hx => absurd hx List.not_mem_nil
  | case2 arguments unrecognized t rest ih =>
    exact List.forall_mem_cons.2 ⟨Word.noConfusion, ih h⟩
  | case3 | case4 =>
    obtain ⟨rfl, -⟩ := Prod.mk.inj (Except.ok.inj h)
    cases hnone
  | case5 | case6 => cases h
  | case7 arguments unrecognized word t rest _ _ hterminator settled hsettle changed _ ih =>
    refine List.forall_mem_cons.2 ⟨hterminator, ?_⟩
    have hrest := ih h
    split at hrest
    next huses =>
      obtain ⟨u, more, rfl⟩ := operand_of_usesNext hsettle huses
      exact List.forall_mem_cons.2 ⟨Word.noConfusion, hrest⟩
    next => exact hrest

/-- Words that are gone through, with all known, are accepted. -/
theorem parse_of_ofWords {words : List Text} {classified : List (Word × Text)}
    (hclassify : classify words = .ok classified)
    (hwords : ofWords empty [] classified = .ok (arguments, [])) : parse words = .ok arguments := by
  rw [parse, hclassify]
  dsimp only
  rw [hwords]

/-- Words that are accepted have been gone through, with all known. -/
theorem ofWords_of_parse {words : List Text} (h : parse words = .ok arguments) :
    ∃ classified, classify words = .ok classified ∧
      ofWords empty [] classified = .ok (arguments, []) := by
  unfold parse at h
  cases hclassify : classify words with
  | error misuse =>
    rw [hclassify] at h
    cases h
  | ok classified =>
    rw [hclassify] at h
    dsimp only at h
    split at h
    next => cases h
    next result hwords => exact ⟨classified, rfl, Except.ok.inj h ▸ hwords⟩
    next => cases h

/-- The first operand and what is behind it are the message, unless a word of it is ambiguous. -/
theorem parse_operand {front : List Text} {w : Text} (tail : List Text)
    (hfront : parse front = .ok arguments) (hnone : arguments.message = [])
    (hw : w.head? ≠ some hyphen) :
    parse (front ++ w :: tail) =
      match ambiguity? tail with
      | some t => .error (.misuse (.ambiguous t Switch.all))
      | none => .ok { arguments with message := w :: tail } := by
  obtain ⟨classified, hclassify, hwords⟩ := ofWords_of_parse hfront
  have hoperand : Word.ofText w = .ok .operand := by
    unfold Word.ofText
    split
    · exact absurd rfl hw
    · exact absurd rfl hw
    · rfl
  have happend : classify (front ++ w :: tail) = (classify (w :: tail)).map (classified ++ ·) :=
    classify_append hclassify (not_terminator_of_ofWords hwords hnone)
  rw [classify_word tail hoperand Word.noConfusion] at happend
  rcases classify_cases tail with ⟨t, hambiguity, herror⟩ | ⟨hambiguity, more, hok⟩
  · rw [herror] at happend
    rw [hambiguity, parse, happend]
    rfl
  · rw [hok] at happend
    rw [hambiguity]
    refine parse_of_ofWords happend ?_
    rw [ofWords_append hwords hnone, ofWords, map_snd_classify hok]

end Arguments

end DwmIpc.CommandLine
