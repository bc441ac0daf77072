import DwmIpc.Proofs.Json.Document

/-!
# How deep a document is nested

`deepest` counts in a text alone how many brackets are open at a time, leaving out what
stands between quotes. A document that is refused as nested too deep has more of them
open at some place than the limit allows (`deepest_of_readBytes`): to read a value comes
back to the level that it began at, so that what is behind it is no deeper than the
whole (`deepest_readValue`), and each bracket that is opened leaves one level less.

The other way round, brackets that open arrays in one another are refused once there is
one too many (`readBytes_brackets`).
-/

namespace DwmIpc.Json

variable {limits : Limits} {fuel depth level : Nat} {t rest : Text} {value : Json}

/-! ## Counting brackets -/

/-- A bracket that opens an array or an object. -/
def isOpening (c : CodePoint) : Bool :=
  c == .scalar '[' || c == .scalar '\x7b'

/-- A bracket that closes one. -/
def isClosing (c : CodePoint) : Bool :=
  c == .scalar ']' || c == .scalar '\x7d'

/-- How many brackets are open at a time at most, with `level` open at the start, between quotes or
not. A backslash between quotes takes the next character with it. -/
def deepest : (quoted : Bool) → (level : Nat) → Text → Nat
  | _, level, [] => level
  | true, level, [_] => level
  | true, level, c :: d :: rest =>
    if c = .scalar '\\' then deepest true level rest
    else deepest (c != .scalar '"') level (d :: rest)
  | false, level, c :: rest =>
    if c = .scalar '"' then deepest true level rest
    else if isOpening c then deepest false (level + 1) rest
    else if isClosing c then max level (deepest false (level - 1) rest)
    else deepest false level rest

/-- The deepest level is no less than the one at the start. -/
theorem le_deepest (quoted : Bool) (level : Nat) (t : Text) : level ≤ deepest quoted level t := by
  fun_induction deepest quoted level t with
  | case1 | case2 => exact Nat.le_refl _
  | case3 _ _ _ ih | case4 _ _ _ _ _ ih | case5 _ _ ih | case8 _ _ _ _ _ _ ih => exact ih
  | case6 _ _ _ _ _ ih => exact Nat.le_of_succ_le ih
  | case7 => exact Nat.le_max_left _ _

/-- A quote opens a text. -/
theorem deepest_quote (level : Nat) (t : Text) :
    deepest false level (.scalar '"' :: t) = deepest true level t := by
  rw [deepest, if_pos rfl]

/-- A quote ends a text. -/
theorem deepest_unquote (level : Nat) (t : Text) :
    deepest true level (.scalar '"' :: t) = deepest false level t := by
  cases t with
  | nil => rfl
  | cons d rest =>
    rw [deepest, if_neg (by decide)]
    rfl

/-- Other characters of a text are passed over, and so is one behind a backslash. -/
theorem deepest_quoted {c : CodePoint} (hquote : c ≠ .scalar '"') (hbackslash : c ≠ .scalar '\\')
    (level : Nat) (t : Text) : deepest true level (c :: t) = deepest true level t := by
  cases t with
  | nil => rfl
  | cons d rest => rw [deepest, if_neg hbackslash, bne_iff_ne.2 hquote]

/-- An escape in a text is passed over as a whole. -/
theorem deepest_backslash (level : Nat) (c : CodePoint) (t : Text) :
    deepest true level (.scalar '\\' :: c :: t) = deepest true level t := by
  rw [deepest, if_pos rfl]

/-- A bracket that opens takes what follows one level down. -/
theorem deepest_opening {c : CodePoint} (h : isOpening c = true) (level : Nat) (t : Text) :
    deepest false level (c :: t) = deepest false (level + 1) t := by
  have hquote : c ≠ .scalar '"' := by
    rintro rfl
    cases h
  rw [deepest, if_neg hquote, if_pos h]

/-- Behind a bracket that closes one it is no deeper than in front of it. -/
theorem deepest_closing {c : CodePoint} (h : isClosing c = true) (level : Nat) (t : Text) :
    deepest false level t ≤ deepest false (level + 1) (c :: t) := by
  have hother : c ≠ .scalar '"' ∧ ¬isOpening c = true := by
    simp only [isClosing, Bool.or_eq_true, beq_iff_eq] at h
    rcases h with rfl | rfl <;> decide
  rw [deepest, if_neg hother.1, if_neg hother.2, if_pos h]
  exact Nat.le_max_right _ _

/-- Neither a bracket nor a quote. -/
def isPlain (c : CodePoint) : Bool :=
  c != .scalar '"' && !isOpening c && !isClosing c

/-- Other characters leave the level as it is. -/
theorem deepest_plain {c : CodePoint} (h : isPlain c = true) (level : Nat) (t : Text) :
    deepest false level (c :: t) = deepest false level t := by
  simp only [isPlain, Bool.and_eq_true, Bool.not_eq_true', bne_iff_ne] at h
  rw [deepest, if_neg h.1.1, if_neg (Bool.eq_false_iff.1 h.1.2), if_neg (Bool.eq_false_iff.1 h.2)]

/-! ## What is read on the way -/

/-- What is left of a text behind some plain characters. -/
def Behind (t rest : Text) : Prop :=
  ∃ front, t = front ++ rest ∧ ∀ c ∈ front, isPlain c = true

namespace Behind

theorem refl (t : Text) : Behind t t :=
  ⟨[], rfl, fun _ hc => absurd hc List.not_mem_nil⟩

theorem trans {s : Text} (hs : Behind s t) (ht : Behind t rest) : Behind s rest := by
  obtain ⟨front, rfl, hfront⟩ := hs
  obtain ⟨more, rfl, hmore⟩ := ht
  refine ⟨front ++ more, (List.append_assoc ..).symm, fun c hc => ?_⟩
  exact (List.mem_append.1 hc).elim (hfront c) (hmore c)

theorem cons {c : CodePoint} (hc : isPlain c = true) (h : Behind t rest) :
    Behind (c :: t) rest := by
  obtain ⟨front, rfl, hfront⟩ := h
  exact ⟨c :: front, rfl, List.forall_mem_cons.2 ⟨hc, hfront⟩⟩

/-- Plain characters are skipped. -/
theorem dropWhile {p : CodePoint → Bool} (hp : ∀ c, p c = true → isPlain c = true) (t : Text) :
    Behind t (t.dropWhile p) := by
  refine ⟨t.takeWhile p, List.takeWhile_append_dropWhile.symm, fun c hc => hp c ?_⟩
  exact List.all_eq_true.1 List.all_takeWhile c hc

/-- It is as deep behind plain characters as in front of them. -/
theorem deepest_eq (h : Behind t rest) (level : Nat) :
    deepest false level t = deepest false level rest := by
  obtain ⟨front, rfl, hfront⟩ := h
  induction front with
  | nil => rfl
  | cons c front ih =>
    obtain ⟨hc, hmore⟩ := List.forall_mem_cons.1 hfront
    rw [List.cons_append, deepest_plain hc, ih hmore]

end Behind

theorem isPlain_of_isBlank {c : CodePoint} (h : isBlank c = true) : isPlain c = true := by
  cases c with
  | surrogate => cases h
  | scalar c =>
    simp only [isBlank, Bool.or_eq_true, beq_iff_eq] at h
    rcases h with ((rfl | rfl) | rfl) | rfl <;> decide

theorem isPlain_of_isDigit {c : CodePoint} (h : c.isDigit = true) : isPlain c = true := by
  have hother : ∀ d ∈ ['"', '[', '\x7b', ']', '\x7d'], c ≠ .scalar d := by
    intro d hd
    rintro rfl
    simp only [List.mem_cons, List.not_mem_nil, or_false] at hd
    rcases hd with rfl | rfl | rfl | rfl | rfl <;> cases h
  simp only [List.forall_mem_cons] at hother
  simp [isPlain, isOpening, isClosing, hother]

theorem behind_skipBlanks (t : Text) : Behind t (skipBlanks t) :=
  .dropWhile (fun _ => isPlain_of_isBlank) t

theorem behind_afterDigits (t : Text) : Behind t (Text.afterDigits t) :=
  .dropWhile (fun _ => isPlain_of_isDigit) t

/-- A word is plain. -/
theorem behind_readWord? (h : readWord? t = some (value, rest)) : Behind t rest := by
  have hwords : (words.all fun entry => (Text.ofString entry.1).all isPlain) = true := by decide
  obtain ⟨⟨word, found⟩, hentry, hfound⟩ := List.exists_of_findSome?_eq_some h
  dsimp only at hfound
  split at hfound
  next hstarts =>
    obtain ⟨-, rfl⟩ := Prod.mk.inj (Option.some.inj hfound)
    obtain ⟨more, rfl⟩ := List.isPrefixOf_iff_prefix.1 hstarts
    have hlength : word.length = (Text.ofString word).length := (List.length_map _).symm
    rw [hlength, List.drop_left]
    exact ⟨_, rfl, List.all_eq_true.1 (List.all_eq_true.1 hwords (word, found) hentry)⟩
  next => cases hfound

/-- There are no brackets in the whole part of a number. -/
theorem behind_readWhole (t : Text) : Behind t (readWhole t).2 := by
  unfold readWhole
  split
  next rest => exact (Behind.refl rest).cons (by decide)
  next => exact behind_afterDigits t

theorem behind_readFraction (t : Text) : Behind t (readFraction t).2 := by
  unfold readFraction
  split
  next rest =>
    split
    next => exact .refl _
    next => exact (behind_afterDigits rest).cons (by decide)
  next => exact .refl _

theorem behind_readExponent (t : Text) : Behind t (readExponent t).2 := by
  unfold readExponent
  split
  next e rest =>
    split
    next hletter =>
      have he : isPlain (.scalar e) = true := by
        rcases hletter with rfl | rfl <;> decide
      dsimp only
      split
      all_goals
        split
        next => exact .refl _
        next => 
          first
            | exact ((behind_afterDigits _).cons (by decide)).cons he
            | exact (behind_afterDigits _).cons he
    next => exact .refl _
  next => exact .refl _

/-- So is a number. -/
theorem behind_readNumber (h : readNumber limits t = .ok (value, rest)) : Behind t rest := by
  unfold readNumber at h
  split at h
  next negative unsigned hsign =>
    have hunsigned : Behind t unsigned := by
      split at hsign
      next more =>
        obtain ⟨-, rfl⟩ := Prod.mk.inj hsign
        exact (Behind.refl more).cons (by decide)
      next =>
        obtain ⟨-, rfl⟩ := Prod.mk.inj hsign
        exact .refl _
    have hexponent := ((hunsigned.trans (behind_readWhole unsigned)).trans
      (behind_readFraction _)).trans (behind_readExponent _)
    dsimp only at h
    split at h
    next => cases h
    next =>
      split at h
      next heq =>
        rw [heq] at hexponent
        split at h
        next => cases h
        next =>
          obtain ⟨-, rfl⟩ := Prod.mk.inj (Except.ok.inj h)
          exact hexponent
      next heq _ =>
        rw [heq] at hexponent
        obtain ⟨-, rfl⟩ := Prod.mk.inj (Except.ok.inj h)
        exact hexponent

/-- Hexadecimal digits are neither quotes nor backslashes. -/
theorem deepest_hexValue? {c : CodePoint} {n : Nat} (h : c.hexValue? = some n) (level : Nat)
    (t : Text) : deepest true level (c :: t) = deepest true level t := by
  have hnone : (CodePoint.scalar '"').hexValue? = none ∧
      (CodePoint.scalar '\\').hexValue? = none := by
    decide
  refine deepest_quoted ?_ ?_ level t
  · rintro rfl
    cases hnone.1.symm.trans h
  · rintro rfl
    cases hnone.2.symm.trans h

/-- The digits of an escape are not brackets. -/
theorem deepest_hex4? {a b c d : CodePoint} {n : Nat} (h : hex4? a b c d = some n) (level : Nat)
    (t : Text) : deepest true level (a :: b :: c :: d :: t) = deepest true level t := by
  simp only [hex4?, Option.bind_eq_bind, Option.bind_eq_some_iff] at h
  obtain ⟨_, ha, _, hb, _, hc, _, hd, -⟩ := h
  rw [deepest_hexValue? ha, deepest_hexValue? hb, deepest_hexValue? hc, deepest_hexValue? hd]

/-- An escape is passed over as a whole. -/
theorem deepest_escape {c : CodePoint} {taken : Nat} (h : readEscape? t = some (c, taken))
    (level : Nat) :
    deepest true level (.scalar '\\' :: t) = deepest true level (t.drop taken) := by
  unfold readEscape? at h
  split at h
  next rest =>
    obtain ⟨⟨code, digits⟩, hunicode, heq⟩ := Option.map_eq_some_iff.1 h
    obtain ⟨-, rfl⟩ := Prod.mk.inj heq
    rw [deepest_backslash, List.drop_succ_cons]
    unfold unicodeEscape? at hunicode
    split at hunicode
    next a b c d rest =>
      split at hunicode
      next => cases hunicode
      next n hfirst =>
        rw [deepest_hex4? hfirst]
        have hfour (h : some (CodePoint.ofNat n, 4) = some (code, digits)) :
            deepest true level rest =
              deepest true level ((a :: b :: c :: d :: rest).drop digits) := by
          obtain ⟨-, rfl⟩ := Prod.mk.inj (Option.some.inj h)
          rfl
        split at hunicode
        next e f g k more =>
          split at hunicode
          next => exact hfour hunicode
          next m hsecond =>
            split at hunicode
            next =>
              -- the second escape of a surrogate pair
              obtain ⟨-, rfl⟩ := Prod.mk.inj (Option.some.inj hunicode)
              rw [deepest_backslash, deepest_hex4? hsecond]
              rfl
            next => exact hfour hunicode
        next => exact hfour hunicode
    next => cases hunicode
  next letter rest _ =>
    obtain ⟨_, -, heq⟩ := Option.map_eq_some_iff.1 h
    obtain ⟨-, rfl⟩ := Prod.mk.inj heq
    exact deepest_backslash level _ _
  next => cases h

/-- A text is passed over up to its end. -/
theorem deepest_readText {pending : Nat} {done s : Text}
    (h : readText pending done t = some (s, rest)) (level : Nat) :
    deepest true level (t.drop pending) = deepest false level rest := by
  induction t generalizing pending done with
  | nil => 
    unfold readText at h
    cases h
  | cons c t ih =>
    cases pending with
    | succ pending => exact ih (by rwa [readText] at h)
    | zero =>
      rw [readText] at h
      rw [List.drop_zero]
      split at h
      next hquote =>
        obtain ⟨-, rfl⟩ := Prod.mk.inj (Option.some.inj h)
        rw [hquote, deepest_unquote]
      next hquote =>
        split at h
        next hbackslash =>
          split at h
          next => cases h
          next hescape => rw [hbackslash, deepest_escape hescape, ih h]
        next hbackslash =>
          split at h
          next => cases h
          next => rw [deepest_quoted hquote hbackslash, ← ih h, List.drop_zero]

/-! ## Reading values -/

/-- Blanks do not nest. -/
theorem deepest_skipBlanks (level : Nat) (t : Text) :
    deepest false level (skipBlanks t) = deepest false level t :=
  ((behind_skipBlanks t).deepest_eq level).symm

/-- An array or an object that is closed behind blanks. -/
theorem deepest_closed {c : CodePoint} (h : skipBlanks t = c :: rest) (hc : isClosing c = true)
    (level : Nat) : deepest false level rest ≤ deepest false (level + 1) t := by
  rw [← deepest_skipBlanks (level + 1), h]
  exact deepest_closing hc level rest

/-- A separator and the blanks around it. -/
theorem deepest_separated {c : CodePoint} (h : skipBlanks t = c :: rest) (hc : isPlain c = true)
    (level : Nat) : deepest false level (skipBlanks rest) = deepest false level t := by
  rw [← deepest_skipBlanks level t, h, deepest_plain hc, deepest_skipBlanks]

/-- To read a value comes back to the level that it began at, and to read what is left of an array
or an object goes back to the level in front of it. -/
theorem deepest_of_ok (limits : Limits) (fuel : Nat) :
    (∀ depth t value rest, readValue limits fuel depth t = .ok (value, rest) →
      ∀ level, deepest false level rest ≤ deepest false level t) ∧
    (∀ depth done t value rest, readItems limits fuel depth done t = .ok (value, rest) →
      ∀ level, deepest false level rest ≤ deepest false (level + 1) t) ∧
    (∀ depth done t value rest, readFields limits fuel depth done t = .ok (value, rest) →
      ∀ level, deepest false level rest ≤ deepest false (level + 1) t) := by
  induction fuel with
  | zero =>
    refine ⟨?_, ?_, ?_⟩
    · intro _ _ _ _ h
      cases h
    · intro _ _ _ _ _ h
      cases h
    · intro _ _ _ _ _ h
      cases h
  | succ fuel ih =>
    obtain ⟨ihValue, ihItems, ihFields⟩ := ih
    refine ⟨?value, ?items, ?fields⟩
    case value =>
      intro depth t value rest h level
      unfold readValue at h
      split at h
      next more =>
        split at h
        next hread =>
          obtain ⟨-, rfl⟩ := Prod.mk.inj (Except.ok.inj h)
          rw [deepest_quote, ← deepest_readText hread]
          exact Nat.le_refl _
        next => cases h
      next more =>
        rw [deepest_opening (by decide)]
        split at h
        next => cases h
        next =>
          split at h
          next hclosing =>
            obtain ⟨-, rfl⟩ := Prod.mk.inj (Except.ok.inj h)
            exact deepest_closed hclosing (by decide) level
          next =>
            rw [← deepest_skipBlanks (level + 1)]
            exact ihItems _ _ _ _ _ h level
      next more =>
        rw [deepest_opening (by decide)]
        split at h
        next => cases h
        next =>
          split at h
          next hclosing =>
            obtain ⟨-, rfl⟩ := Prod.mk.inj (Except.ok.inj h)
            exact deepest_closed hclosing (by decide) level
          next =>
            rw [← deepest_skipBlanks (level + 1)]
            exact ihFields _ _ _ _ _ h level
      next =>
        split at h
        next result hword =>
          obtain rfl := Except.ok.inj h
          exact Nat.le_of_eq ((behind_readWord? hword).deepest_eq level).symm
        next => exact Nat.le_of_eq ((behind_readNumber h).deepest_eq level).symm
    case items =>
      intro depth done t value rest h level
      unfold readItems at h
      split at h
      next => cases h
      next first more hfirst =>
        refine Nat.le_trans ?_ (ihValue _ _ _ _ hfirst (level + 1))
        split at h
        next hclosing =>
          obtain ⟨-, rfl⟩ := Prod.mk.inj (Except.ok.inj h)
          exact deepest_closed hclosing (by decide) level
        next hcomma =>
          rw [← deepest_separated hcomma (by decide)]
          exact ihItems _ _ _ _ _ h level
        next => cases h
    case fields =>
      intro depth done t value rest h level
      unfold readFields at h
      split at h
      next =>
        split at h
        next => cases h
        next key more hkey =>
          have hmore : deepest true (level + 1) _ = deepest false (level + 1) more :=
            deepest_readText hkey (level + 1)
          rw [List.drop_zero] at hmore
          rw [deepest_quote, hmore]
          split at h
          next hcolon =>
            rw [← deepest_separated hcolon (by decide)]
            split at h
            next => cases h
            next first more hfirst =>
              refine Nat.le_trans ?_ (ihValue _ _ _ _ hfirst (level + 1))
              split at h
              next hclosing =>
                obtain ⟨-, rfl⟩ := Prod.mk.inj (Except.ok.inj h)
                exact deepest_closed hclosing (by decide) level
              next hcomma =>
                rw [← deepest_separated hcomma (by decide)]
                exact ihFields _ _ _ _ _ h level
              next => cases h
          next => cases h
      next => cases h

/-- A number is never nested too deep. -/
theorem readNumber_ne (limits : Limits) (t : Text) (inObject : Bool) :
    readNumber limits t ≠ .error (.tooDeep inObject) := by
  intro h
  unfold readNumber at h
  split at h
  dsimp only at h
  split at h
  next => cases h
  next =>
    split at h
    next => split at h <;> cases h
    next => cases h

/-- What is refused as nested too deep opens more brackets in one another than may be opened. -/
theorem deepest_of_tooDeep (limits : Limits) (inObject : Bool) (fuel : Nat) :
    (∀ depth t, readValue limits fuel depth t = .error (.tooDeep inObject) →
      ∀ level, level + depth < deepest false level t) ∧
    (∀ depth done t, readItems limits fuel depth done t = .error (.tooDeep inObject) →
      ∀ level, level + depth < deepest false level t) ∧
    (∀ depth done t, readFields limits fuel depth done t = .error (.tooDeep inObject) →
      ∀ level, level + depth < deepest false level t) := by
  induction fuel with
  | zero =>
    refine ⟨?_, ?_, ?_⟩
    · intro _ _ h
      cases h
    · intro _ _ _ h
      cases h
    · intro _ _ _ h
      cases h
  | succ fuel ih =>
    obtain ⟨ihValue, ihItems, ihFields⟩ := ih
    have hback := (deepest_of_ok limits fuel).1
    refine ⟨?value, ?items, ?fields⟩
    case value =>
      intro depth t h level
      unfold readValue at h
      split at h
      next more =>
        split at h <;> cases h
      next more =>
        rw [deepest_opening (by decide)]
        split at h
        next => exact le_deepest false (level + 1) more
        next depth =>
          split at h
          next => cases h
          next =>
            rw [← deepest_skipBlanks (level + 1)]
            have hitems := ihItems _ _ _ h (level + 1)
            omega
      next more =>
        rw [deepest_opening (by decide)]
        split at h
        next => exact le_deepest false (level + 1) more
        next depth =>
          split at h
          next => cases h
          next =>
            rw [← deepest_skipBlanks (level + 1)]
            have hfields := ihFields _ _ _ h (level + 1)
            omega
      next =>
        split at h
        next => cases h
        next => exact absurd h (readNumber_ne _ _ _)
    case items =>
      intro depth done t h level
      unfold readItems at h
      split at h
      next hfirst =>
        obtain rfl := Except.error.inj h
        exact ihValue _ _ hfirst level
      next first more hfirst =>
        refine Nat.lt_of_lt_of_le ?_ (hback _ _ _ _ hfirst level)
        split at h
        next => cases h
        next hcomma =>
          rw [← deepest_separated hcomma (by decide)]
          exact ihItems _ _ _ h level
        next => cases h
    case fields =>
      intro depth done t h level
      unfold readFields at h
      split at h
      next =>
        split at h
        next => cases h
        next key more hkey =>
          have hmore : deepest true level _ = deepest false level more :=
            deepest_readText hkey level
          rw [List.drop_zero] at hmore
          rw [deepest_quote, hmore]
          split at h
          next hcolon =>
            rw [← deepest_separated hcolon (by decide)]
            split at h
            next hfirst =>
              obtain rfl := Except.error.inj h
              exact ihValue _ _ hfirst level
            next first more hfirst =>
              refine Nat.lt_of_lt_of_le ?_ (hback _ _ _ _ hfirst level)
              split at h
              next => cases h
              next hcomma =>
                rw [← deepest_separated hcomma (by decide)]
                exact ihFields _ _ _ h level
              next => cases h
          next => cases h
      next => cases h

/-- **A document that is nested too deep has too many brackets open at a time.** -/
theorem deepest_of_readBytes {bytes : Bytes} {inObject : Bool}
    (h : readBytes bytes = .error (.tooDeep inObject)) :
    ∃ t, decode? bytes = some t ∧ documentLimits.depth < deepest false 0 t := by
  unfold readBytes at h
  split at h
  next => cases h
  next t hdecode =>
    refine ⟨t, hdecode, ?_⟩
    unfold read at h
    split at h
    next failure hvalue =>
      obtain rfl := Except.error.inj h
      have hdeep := (deepest_of_tooDeep documentLimits inObject _).1 _ _ hvalue 0
      rwa [Nat.zero_add, deepest_skipBlanks] at hdeep
    next => split at h <;> cases h

-- the brackets between quotes do not count
example : deepest false 0 (Text.ofString "[\"[[\", [], \x7b\"a\": [1]\x7d]") = 3 := by decide

/-! ## Brackets in one another -/

/-- A bracket that opens an array. -/
def openBracket : CodePoint := .scalar '['

/-- Of brackets that open arrays in one another, the first one too many is refused. -/
theorem readValue_brackets (limits : Limits) (depth : Nat) {fuel : Nat} (enough : 2 * depth < fuel)
    (rest : Text) :
    readValue limits fuel depth (List.replicate (depth + 1) openBracket ++ rest) =
      .error (.tooDeep false) := by
  induction depth generalizing fuel with
  | zero =>
    obtain ⟨fuel, rfl⟩ : ∃ more, fuel = more + 1 := ⟨fuel - 1, by omega⟩
    show readValue limits (fuel + 1) 0 (.scalar '[' :: rest) = _
    rfl
  | succ depth ih =>
    obtain ⟨fuel, rfl⟩ : ∃ more, fuel = more + 2 := ⟨fuel - 2, by omega⟩
    have hinner := @ih fuel (by omega)
    show readItems limits (fuel + 1) depth [] (List.replicate (depth + 1) openBracket ++ rest) = _
    rw [readItems, hinner]

/-- A document of nothing but such brackets, more than may be open, is nested too deep. -/
theorem readBytes_brackets {count : Nat} (h : documentLimits.depth < count) :
    readBytes (List.replicate count 0x5B) = .error (.tooDeep false) := by
  have hbytes : List.replicate count 0x5B =
      (List.replicate count '[').flatMap Utf8.encodeChar := by
    rw [List.flatMap_replicate]
    exact List.flatten_replicate_singleton.symm
  have htext : (List.replicate count '[').map .scalar = List.replicate count openBracket :=
    List.map_replicate
  -- the brackets that may be open and one more, and others behind them
  obtain ⟨more, rfl⟩ := Nat.exists_eq_add_of_lt h
  have hsplit : List.replicate (documentLimits.depth + more + 1) openBracket =
      List.replicate (documentLimits.depth + 1) openBracket ++ List.replicate more openBracket := by
    rw [List.replicate_append_replicate, Nat.add_right_comm]
  have hstarts : Starts (List.replicate (documentLimits.depth + more + 1) openBracket) :=
    ⟨'[', _, List.replicate_succ, by decide, rfl, by decide, by decide⟩
  have hdecode := decode?_encode (htext.symm ▸ hstarts) (by simp)
  have hskip := hstarts.skipBlanks []
  rw [List.append_nil] at hskip
  rw [htext] at hdecode
  rw [readBytes, hbytes, hdecode]
  show read documentLimits (List.replicate (documentLimits.depth + more + 1) openBracket) = _
  rw [read, hskip, List.length_replicate, hsplit, readValue_brackets _ _ (by omega)]

end DwmIpc.Json
