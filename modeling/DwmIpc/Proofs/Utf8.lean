import DwmIpc.Text.Utf8

/-!
# UTF-8 there and back

The sequence of bytes that a character is encoded as is recognised as this
character, whatever follows it (`sequence_encodeChar`), and nothing else is
recognised: what counts as a character is its encoding (`sequence_sound`).

`Spells` says which bytes a text stands for. A text of characters only is read
back from its bytes (`decodeSurrogates?_encode`). Any bytes are what their decoded
text stands for, stray bytes included (`spells_decodeEscaping`).
-/

namespace DwmIpc.Utf8

/-! ## Sequences -/

/-- The continuation byte that carries six bits. -/
def tail (low : Nat) : UInt8 :=
  UInt8.ofNat (0x80 + low)

theorem toNat_tail {low : Nat} (h : low < 0x40) : (tail low).toNat = 0x80 + low := by
  rw [tail, UInt8.toNat_ofNat']
  omega

/-- The bytes behind the first one are read as the bits they hold. -/
theorem continuation?_tail {low : Nat} (h : low < 0x40) : continuation? (tail low) = some low := by
  rw [continuation?, toNat_tail h, if_pos (by omega)]
  exact congrArg some (by omega)

theorem eq_tail_of_continuation? {byte : UInt8} {low : Nat} (h : continuation? byte = some low) :
    byte = tail low ∧ low < 0x40 := by
  unfold continuation? at h
  split at h
  next hrange =>
    obtain rfl := Option.some.inj h
    have hlow : byte.toNat - 0x80 < 0x40 := by omega
    refine ⟨UInt8.toNat_inj.1 ?_, hlow⟩
    rw [toNat_tail hlow]
    omega
  next => cases h

/-- The lead byte of two. -/
theorem lead?_two {byte : UInt8} (h : 0xC2 ≤ byte.toNat ∧ byte.toNat < 0xE0) :
    lead? byte = some ⟨1, byte.toNat - 0xC0, 0x80, 0xBF⟩ := by
  simp only [lead?]
  rw [if_neg (by omega), if_pos (by omega)]

/-- The lead byte of three; two of them narrow what may follow. -/
theorem lead?_three {byte : UInt8} (h : 0xE0 ≤ byte.toNat ∧ byte.toNat < 0xF0) :
    lead? byte = some ⟨2, byte.toNat - 0xE0, if byte.toNat = 0xE0 then 0xA0 else 0x80,
      if byte.toNat = 0xED then 0x9F else 0xBF⟩ := by
  simp only [lead?]
  rw [if_neg (by omega), if_neg (by omega)]
  by_cases hlow : byte.toNat = 0xE0
  · rw [if_pos hlow, if_pos hlow, if_neg (by omega), hlow]
  · by_cases hhigh : byte.toNat = 0xED
    · rw [if_neg hlow, if_neg hlow, if_pos hhigh, if_pos hhigh, hhigh]
    · rw [if_neg hlow, if_neg hlow, if_neg hhigh, if_neg hhigh, if_pos h.2]

/-- The lead byte of four; two of them narrow what may follow. -/
theorem lead?_four {byte : UInt8} (h : 0xF0 ≤ byte.toNat ∧ byte.toNat < 0xF5) :
    lead? byte = some ⟨3, byte.toNat - 0xF0, if byte.toNat = 0xF0 then 0x90 else 0x80,
      if byte.toNat = 0xF4 then 0x8F else 0xBF⟩ := by
  simp only [lead?]
  rw [if_neg (by omega), if_neg (by omega), if_neg (by omega), if_neg (by omega), if_neg (by omega)]
  by_cases hlow : byte.toNat = 0xF0
  · rw [if_pos hlow, if_pos hlow, if_neg (by omega), hlow]
  · by_cases hhigh : byte.toNat = 0xF4
    · rw [if_neg hlow, if_neg hlow, if_neg (by omega), if_pos hhigh, if_pos hhigh, hhigh]
    · rw [if_neg hlow, if_neg hlow, if_pos (by omega), if_neg hhigh]

/-- No other byte leads. -/
theorem lead?_none {byte : UInt8} (h : byte.toNat < 0xC2 ∨ 0xF5 ≤ byte.toNat) :
    lead? byte = none := by
  simp only [lead?]
  rcases h with h | h
  · rw [if_pos h]
  · rw [if_neg (by omega), if_neg (by omega), if_neg (by omega), if_neg (by omega),
      if_neg (by omega), if_neg (by omega), if_neg (by omega), if_neg (by omega)]

/-- Bits with those of continuation bytes behind them. -/
def collect (bits : Nat) (lows : List Nat) : Nat :=
  lows.foldl (fun bits low => bits * 0x40 + low) bits

/-- All of them are read up to the end of the character. -/
theorem continuations_tails {lows : List Nat} (hlows : ∀ low ∈ lows, low < 0x40) (bits : Nat)
    (rest : Bytes) :
    continuations lows.length bits (lows.map tail ++ rest) = (lows.length, collect bits lows) := by
  induction lows generalizing bits with
  | nil => rfl
  | cons low more ih =>
    rw [List.length_cons, List.map_cons, List.cons_append, continuations,
      continuation?_tail (hlows low (List.mem_cons_self ..))]
    simp only [ih fun l hl => hlows l (List.mem_cons_of_mem _ hl)]
    rfl

/-- If all continuation bytes are there, they carry the bits. -/
theorem tails_of_continuations {count bits total : Nat} {rest : Bytes}
    (h : continuations count bits rest = (count, total)) :
    ∃ lows more, rest = lows.map tail ++ more ∧ lows.length = count ∧
      (∀ low ∈ lows, low < 0x40) ∧ total = collect bits lows := by
  induction count generalizing bits rest with
  | zero =>
    rw [continuations] at h
    exact ⟨[], rest, rfl, rfl, fun _ hl => absurd hl List.not_mem_nil, (Prod.mk.inj h).2.symm⟩
  | succ count ih =>
    cases rest with
    | nil => cases h
    | cons byte rest =>
      rw [continuations] at h
      split at h
      next => cases h
      next low hlow =>
        obtain ⟨rfl, hsmall⟩ := eq_tail_of_continuation? hlow
        have hcount := Nat.succ.inj (Prod.mk.inj h).1
        have hrest : continuations count (bits * 0x40 + low) rest = (count, total) :=
          Prod.ext hcount (Prod.mk.inj h).2
        obtain ⟨lows, more, rfl, hlength, hlows, htotal⟩ := ih hrest
        refine ⟨low :: lows, more, rfl, by rw [List.length_cons, hlength], ?_, htotal⟩
        intro l hl
        rcases List.mem_cons.1 hl with rfl | hl
        · exact hsmall
        · exact hlows l hl

/-- A lead byte with its continuation bytes behind it makes a character. -/
theorem sequence_tails {byte : UInt8} {lead : Lead} (hhigh : 0x80 ≤ byte.toNat)
    (hlead : lead? byte = some lead) (first : Nat) (lows : List Nat)
    (hfirst : lead.low ≤ 0x80 + first ∧ 0x80 + first ≤ lead.high)
    (hlows : ∀ low ∈ first :: lows, low < 0x40) (hlength : lows.length + 1 = lead.following)
    (rest : Bytes) :
    sequence byte ((first :: lows).map tail ++ rest) =
      .char (Char.ofNat (collect lead.bits (first :: lows))) lead.following := by
  have hcollected := continuations_tails hlows lead.bits rest
  rw [List.length_cons, hlength] at hcollected
  rw [List.map_cons, List.cons_append] at hcollected ⊢
  unfold sequence
  rw [if_neg (Nat.not_lt.2 hhigh), hlead]
  simp only [toNat_tail (hlows first (List.mem_cons_self ..)), hcollected, if_pos hfirst, if_true]

/-- What makes a character is an ASCII byte, or a lead byte with its continuation bytes. -/
theorem tails_of_sequence {byte : UInt8} {rest : Bytes} {c : Char} {following : Nat}
    (h : sequence byte rest = .char c following) :
    (byte.toNat < 0x80 ∧ c = Char.ofNat byte.toNat ∧ following = 0) ∨
    ∃ lead lows more, lead? byte = some lead ∧ rest = lows.map tail ++ more ∧
      lows.length = following ∧ following = lead.following ∧ (∀ low ∈ lows, low < 0x40) ∧
      (∀ first, lows.head? = some first → lead.low ≤ 0x80 + first ∧ 0x80 + first ≤ lead.high) ∧
      c = Char.ofNat (collect lead.bits lows) := by
  unfold sequence at h
  split at h
  next hascii =>
    obtain ⟨rfl, rfl⟩ := Sequence.char.inj h
    exact .inl ⟨hascii, rfl, rfl⟩
  next =>
    split at h
    next => cases h
    next => cases h
    next lead second more hlead =>
      split at h
      next hsecond =>
        split at h
        next found bits hcollected =>
          split at h
          next hfound =>
            obtain ⟨rfl, rfl⟩ := Sequence.char.inj h
            rw [hfound] at hcollected
            obtain ⟨lows, rest, hrest, hlength, hlows, hbits⟩ := tails_of_continuations hcollected
            refine .inr ⟨lead, lows, rest, hlead, hrest, hlength.trans hfound.symm, hfound, hlows,
              ?_, congrArg Char.ofNat hbits⟩
            intro first hhead
            cases lows with
            | nil => cases hhead
            | cons low lows =>
              obtain rfl := Option.some.inj hhead
              obtain rfl := (List.cons.inj hrest).1
              rwa [toNat_tail (hlows low (List.mem_cons_self ..))] at hsecond
          next => cases h
      next => cases h

/-! ## Characters -/

theorem toNat_valid (c : Char) : c.toNat < 0xD800 ∨ 0xDFFF < c.toNat ∧ c.toNat < 0x110000 :=
  c.valid

/-- A character takes at least a byte. -/
theorem encodeChar_ne_nil (c : Char) : encodeChar c ≠ [] := by
  unfold encodeChar encodeNat
  split
  · exact List.cons_ne_nil _ _
  · split
    · exact List.cons_ne_nil _ _
    · split <;> exact List.cons_ne_nil _ _

/-- A number that is no surrogate is that of a character. -/
theorem toNat_ofNat_char {n : Nat} (h : n < 0xD800 ∨ 0xDFFF < n ∧ n < 0x110000) :
    (Char.ofNat n).toNat = n := by
  unfold Char.ofNat
  rw [dif_pos (show n.isValidChar from h)]
  rfl

/-- The bytes of a character are recognised, whatever follows them. -/
theorem sequence_encodeChar {c : Char} {byte : UInt8} {following : Bytes}
    (h : encodeChar c = byte :: following) (rest : Bytes) :
    sequence byte (following ++ rest) = .char c following.length := by
  have hvalid := toNat_valid c
  generalize hn : c.toNat = n at hvalid
  obtain rfl : Char.ofNat n = c := hn ▸ Char.ofNat_toNat c
  rw [encodeChar, hn] at h
  unfold encodeNat at h
  split at h
  next hone =>
    obtain ⟨hfirst, rfl⟩ := List.cons.inj h
    have hbyte : byte.toNat = n := by
      rw [← hfirst, UInt8.toNat_ofNat']
      omega
    unfold sequence
    rw [hbyte, if_pos hone]
    rfl
  next =>
    split at h
    next htwo =>
      obtain ⟨hfirst, rfl⟩ := List.cons.inj h
      have hbyte : byte.toNat = 0xC0 + n / 0x40 := by
        rw [← hfirst, UInt8.toNat_ofNat']
        omega
      have hbits : collect (byte.toNat - 0xC0) [n % 0x40] = n := by
        simp only [collect, List.foldl_cons, List.foldl_nil]
        omega
      have hlead : lead? byte = some _ := lead?_two (by omega)
      have hsequence := sequence_tails (by omega) hlead (n % 0x40) [] (by simp only; omega)
        (by simp; omega) rfl rest
      rw [hbits] at hsequence
      exact hsequence
    next =>
      split at h
      next hthree =>
        obtain ⟨hfirst, rfl⟩ := List.cons.inj h
        have hbyte : byte.toNat = 0xE0 + n / 0x1000 := by
          rw [← hfirst, UInt8.toNat_ofNat']
          omega
        have hbits : collect (byte.toNat - 0xE0) [n / 0x40 % 0x40, n % 0x40] = n := by
          simp only [collect, List.foldl_cons, List.foldl_nil]
          omega
        have hlead : lead? byte = some _ := lead?_three (by omega)
        have hsequence := sequence_tails (by omega) hlead (n / 0x40 % 0x40) [n % 0x40]
          (by constructor <;> simp only <;> split <;> omega) (by simp; omega) rfl rest
        rw [hbits] at hsequence
        exact hsequence
      next hfour =>
        obtain ⟨hfirst, rfl⟩ := List.cons.inj h
        have hbyte : byte.toNat = 0xF0 + n / 0x40000 := by
          rw [← hfirst, UInt8.toNat_ofNat']
          omega
        have hbits :
            collect (byte.toNat - 0xF0) [n / 0x1000 % 0x40, n / 0x40 % 0x40, n % 0x40] = n := by
          simp only [collect, List.foldl_cons, List.foldl_nil]
          omega
        have hlead : lead? byte = some _ := lead?_four (by omega)
        have hsequence := sequence_tails (by omega) hlead (n / 0x1000 % 0x40)
          [n / 0x40 % 0x40, n % 0x40] (by constructor <;> simp only <;> split <;> omega)
          (by simp; omega) rfl rest
        rw [hbits] at hsequence
        exact hsequence

theorem ofNat_eq_byte {byte : UInt8} {n : Nat} (h : byte.toNat = n) : UInt8.ofNat n = byte := by
  rw [← h, UInt8.ofNat_toNat]

/-- A lead byte of two and six bits. -/
theorem encodeChar_two {byte : UInt8} {a : Nat} (h : 0xC2 ≤ byte.toNat ∧ byte.toNat < 0xE0)
    (ha : a < 0x40) :
    encodeChar (Char.ofNat (collect (byte.toNat - 0xC0) [a])) = [byte, tail a] := by
  generalize hn : collect (byte.toNat - 0xC0) [a] = n
  simp only [collect, List.foldl_cons, List.foldl_nil] at hn
  have hrest : n % 0x40 = a := by omega
  have hfirst : UInt8.ofNat (0xC0 + n / 0x40) = byte := ofNat_eq_byte (by omega)
  rw [encodeChar, toNat_ofNat_char (by omega), encodeNat, if_neg (by omega), if_pos (by omega),
    hrest, hfirst]
  rfl

/-- A lead byte of three; no number has a shorter form, and none is a surrogate. -/
theorem encodeChar_three {byte : UInt8} {a b : Nat} (h : 0xE0 ≤ byte.toNat ∧ byte.toNat < 0xF0)
    (ha : a < 0x40) (hb : b < 0x40) (hlong : byte.toNat = 0xE0 → 0x20 ≤ a)
    (hscalar : byte.toNat = 0xED → a < 0x20) :
    encodeChar (Char.ofNat (collect (byte.toNat - 0xE0) [a, b])) = [byte, tail a, tail b] := by
  generalize hn : collect (byte.toNat - 0xE0) [a, b] = n
  simp only [collect, List.foldl_cons, List.foldl_nil] at hn
  have hfirst : UInt8.ofNat (0xE0 + n / 0x1000) = byte := ofNat_eq_byte (by omega)
  have hsecond : n / 0x40 % 0x40 = a := by omega
  have hthird : n % 0x40 = b := by omega
  rw [encodeChar, toNat_ofNat_char (by omega), encodeNat, if_neg (by omega), if_neg (by omega),
    if_pos (by omega), hsecond, hthird, hfirst]
  rfl

/-- A lead byte of four; no number has a shorter form, and none is too large. -/
theorem encodeChar_four {byte : UInt8} {a b d : Nat} (h : 0xF0 ≤ byte.toNat ∧ byte.toNat < 0xF5)
    (ha : a < 0x40) (hb : b < 0x40) (hd : d < 0x40) (hlong : byte.toNat = 0xF0 → 0x10 ≤ a)
    (hlarge : byte.toNat = 0xF4 → a < 0x10) :
    encodeChar (Char.ofNat (collect (byte.toNat - 0xF0) [a, b, d])) =
      [byte, tail a, tail b, tail d] := by
  generalize hn : collect (byte.toNat - 0xF0) [a, b, d] = n
  simp only [collect, List.foldl_cons, List.foldl_nil] at hn
  have hfirst : UInt8.ofNat (0xF0 + n / 0x40000) = byte := ofNat_eq_byte (by omega)
  have hsecond : n / 0x1000 % 0x40 = a := by omega
  have hthird : n / 0x40 % 0x40 = b := by omega
  have hfourth : n % 0x40 = d := by omega
  rw [encodeChar, toNat_ofNat_char (by omega), encodeNat, if_neg (by omega), if_neg (by omega),
    if_neg (by omega), hsecond, hthird, hfourth, hfirst]
  rfl

/-- A lead byte and as many continuation bytes as it announces are the bytes of a character. -/
theorem encodeChar_tails {byte : UInt8} {lead : Lead} {lows : List Nat}
    (hlead : lead? byte = some lead) (hlength : lows.length = lead.following)
    (hlows : ∀ low ∈ lows, low < 0x40)
    (hfirst : ∀ first, lows.head? = some first →
      lead.low ≤ 0x80 + first ∧ 0x80 + first ≤ lead.high) :
    encodeChar (Char.ofNat (collect lead.bits lows)) = byte :: lows.map tail := by
  rcases Nat.lt_or_ge byte.toNat 0xC2 with hsmall | htwo
  · rw [lead?_none (.inl hsmall)] at hlead
    cases hlead
  rcases Nat.lt_or_ge byte.toNat 0xE0 with hlt | hthree
  · rw [lead?_two ⟨htwo, hlt⟩] at hlead
    obtain rfl := Option.some.inj hlead
    match lows, hlength with
    | [a], _ => exact encodeChar_two ⟨htwo, hlt⟩ (hlows a (by simp))
  rcases Nat.lt_or_ge byte.toNat 0xF0 with hlt | hfour
  · rw [lead?_three ⟨hthree, hlt⟩] at hlead
    obtain rfl := Option.some.inj hlead
    match lows, hlength with
    | [a, b], _ =>
      obtain ⟨hbelow, habove⟩ := hfirst a rfl
      refine encodeChar_three ⟨hthree, hlt⟩ (hlows a (by simp)) (hlows b (by simp)) ?_ ?_
      · intro h
        simp only [if_pos h] at hbelow
        omega
      · intro h
        simp only [if_pos h] at habove
        omega
  rcases Nat.lt_or_ge byte.toNat 0xF5 with hlt | hlarge
  · rw [lead?_four ⟨hfour, hlt⟩] at hlead
    obtain rfl := Option.some.inj hlead
    match lows, hlength with
    | [a, b, d], _ =>
      obtain ⟨hbelow, habove⟩ := hfirst a rfl
      refine encodeChar_four ⟨hfour, hlt⟩ (hlows a (by simp)) (hlows b (by simp))
        (hlows d (by simp)) ?_ ?_
      · intro h
        simp only [if_pos h] at hbelow
        omega
      · intro h
        simp only [if_pos h] at habove
        omega
  · rw [lead?_none (.inr hlarge)] at hlead
    cases hlead

/-- What is recognised as a character is its bytes. -/
theorem sequence_sound {byte : UInt8} {rest : Bytes} {c : Char} {k : Nat}
    (h : sequence byte rest = .char c k) :
    ∃ following more, rest = following ++ more ∧ following.length = k ∧
      encodeChar c = byte :: following := by
  obtain ⟨hascii, rfl, rfl⟩ | ⟨lead, lows, more, hlead, rfl, hlength, rfl, hlows, hfirst, rfl⟩ :=
    tails_of_sequence h
  · refine ⟨[], rest, rfl, rfl, ?_⟩
    rw [encodeChar, toNat_ofNat_char (by omega), encodeNat, if_pos hascii, UInt8.ofNat_toNat]
  · refine ⟨lows.map tail, more, rfl, by rw [List.length_map, hlength], ?_⟩
    exact encodeChar_tails hlead hlength hlows hfirst

/-! ## Texts -/

/-- These are the bytes that a text stands for. -/
inductive Spells : Text → Bytes → Prop
  | nil : Spells [] []
  | cons {c : CodePoint} {t : Text} {first rest : Bytes} :
      encodeCodePoint? c = some first → Spells t rest → Spells (c :: t) (first ++ rest)

/-- Texts are spelled one behind the other. -/
theorem Spells.append {s t : Text} {a b : Bytes} (hs : Spells s a) (ht : Spells t b) :
    Spells (s ++ t) (a ++ b) := by
  induction hs with
  | nil => exact ht
  | cons hfirst _ ih =>
    rw [List.append_assoc]
    exact .cons hfirst ih

/-- Characters are spelled by what they are encoded as. -/
theorem spells_scalars (s : List Char) : Spells (s.map .scalar) (s.flatMap encodeChar) := by
  induction s with
  | nil => exact .nil
  | cons c more ih => exact .cons rfl ih

/-- A text is encoded as the bytes that spell it, behind what is done. -/
theorem encodeFrom_of_spells {t : Text} {bytes : Bytes} (h : Spells t bytes) (done : Bytes)
    (position : Nat) : encodeFrom done position t = .ok (done.reverse ++ bytes) := by
  induction h generalizing done position with
  | nil => simp [encodeFrom]
  | cons hfirst _ ih =>
    rw [encodeFrom, hfirst]
    simp [ih]

theorem encodeEscaping_of_spells {t : Text} {bytes : Bytes} (h : Spells t bytes) :
    encodeEscaping t = .ok bytes :=
  encodeFrom_of_spells h [] 0

/-- Bytes that belong to a character are passed over. -/
theorem decodeBy_skip (step : UInt8 → Bytes → Option (CodePoint × Nat)) (skipped : Bytes)
    (done : Text) (rest : Bytes) :
    decodeBy step skipped.length done (skipped ++ rest) = decodeBy step 0 done rest := by
  induction skipped with
  | nil => rfl
  | cons byte more ih => rw [List.length_cons, List.cons_append, decodeBy, ih]

/-- Characters are read back from their bytes. -/
theorem decodeSurrogates?_encode (s : List Char) :
    decodeSurrogates? (s.flatMap encodeChar) = some (s.map .scalar) := by
  have hdecode (done : Text) :
      decodeBy surrogateStep 0 done (s.flatMap encodeChar) =
        some (done.reverse ++ s.map .scalar) := by
    induction s generalizing done with
    | nil => simp [decodeBy]
    | cons c more ih =>
      cases hbytes : encodeChar c with
      | nil => exact absurd hbytes (encodeChar_ne_nil c)
      | cons byte following =>
        rw [List.flatMap_cons, hbytes, List.cons_append, decodeBy, surrogateStep,
          sequence_encodeChar hbytes]
        simp only [decodeBy_skip, ih]
        simp
  exact hdecode []

/-- A byte that starts no sequence is not an ASCII character. -/
theorem broken_of_sequence {byte : UInt8} {rest : Bytes} {following : Nat}
    (h : sequence byte rest = .broken following) : 0x80 ≤ byte.toNat := by
  refine Nat.le_of_not_lt fun hsmall => ?_
  unfold sequence at h
  rw [if_pos hsmall] at h
  cases h

/-- A decoded code point stands for the bytes that it was decoded from. -/
theorem escapingStep_sound (byte : UInt8) (rest : Bytes) :
    ∃ following more, rest = following ++ more ∧
      (escapingStep byte rest).2 = following.length ∧
      encodeCodePoint? (escapingStep byte rest).1 = some (byte :: following) := by
  unfold escapingStep
  cases hsequence : sequence byte rest with
  | char c k =>
    obtain ⟨following, more, hrest, hlength, hbytes⟩ := sequence_sound hsequence
    exact ⟨following, more, hrest, hlength.symm, congrArg some hbytes⟩
  | broken k =>
    refine ⟨[], rest, rfl, rfl, ?_⟩
    have hstray := CodePoint.undecoded?_undecoded (broken_of_sequence hsequence)
    exact congrArg (Option.map ([·])) hstray

/-- **A text that was decoded stands for the bytes that it was decoded from.** -/
theorem spells_decodeEscaping (bytes : Bytes) : Spells (decodeEscaping bytes) bytes := by
  have hdecode (count : Nat) (bytes : Bytes) (hcount : bytes.length ≤ count) (done : Text) :
      ∃ t, decodeBy (fun byte rest => some (escapingStep byte rest)) 0 done bytes =
        some (done.reverse ++ t) ∧ Spells t bytes := by
    -- a sequence may take several bytes, so the induction is on a bound for their number
    induction count generalizing bytes done with
    | zero =>
      obtain rfl := List.eq_nil_of_length_eq_zero (Nat.le_zero.1 hcount)
      exact ⟨[], by simp [decodeBy], .nil⟩
    | succ count ih =>
      cases bytes with
      | nil => exact ⟨[], by simp [decodeBy], .nil⟩
      | cons byte rest =>
        obtain ⟨following, more, rfl, hlength, hbytes⟩ := escapingStep_sound byte rest
        rw [List.length_cons, List.length_append] at hcount
        obtain ⟨t, ht, hspells⟩ := ih more (by omega)
          ((escapingStep byte (following ++ more)).1 :: done)
        refine ⟨(escapingStep byte (following ++ more)).1 :: t, ?_, .cons hbytes hspells⟩
        rw [decodeBy]
        simp only
        rw [hlength, decodeBy_skip, ht]
        simp
  obtain ⟨t, ht, hspells⟩ := hdecode bytes.length bytes (Nat.le_refl _) []
  rw [decodeEscaping, ht]
  exact hspells

end DwmIpc.Utf8
