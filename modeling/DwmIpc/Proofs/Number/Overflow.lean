import DwmIpc.Proofs.Number.Rounding

/-!
# Numbers that are too large for a double

Rounding goes up at most to the next power of two (`roundUnits_le`), so that a number
overflows only from within half a unit of that power on: the last place of the
largest doubles is `2 ^ 971`, and `2 ^ 1024 - 2 ^ 970` is the least natural number
that is read as an infinity (`isFinite_ofDecimal_natCast`).
-/

namespace DwmIpc.Double

/-- Rounding does not go beyond a power of two. -/
theorem roundUnits_le {n d k : Nat} (h : n / d < 2 ^ k) : roundUnits n d ≤ 2 ^ k := by
  have hplaces : (n / d).log2 - 52 ≤ k := by
    by_cases hzero : n / d = 0
    · rw [hzero]
      exact Nat.zero_le _
    · have hlog : (n / d).log2 < k := (Nat.log2_lt hzero).2 h
      omega
  have hsplit : 2 ^ k = 2 ^ (k - ((n / d).log2 - 52)) * spacing n d := by
    rw [spacing_eq, ← Nat.pow_add]
    congr 1
    omega
  have hfloor : n / (d * spacing n d) < 2 ^ (k - ((n / d).log2 - 52)) := by
    rw [← Nat.div_div_eq_div_mul, Nat.div_lt_iff_lt_mul (spacing_pos n d), ← hsplit]
    exact h
  calc roundUnits n d = roundQuotient n (d * spacing n d) * spacing n d := rfl
    _ ≤ 2 ^ (k - ((n / d).log2 - 52)) * spacing n d :=
      Nat.mul_le_mul_right _ (Nat.le_trans (roundQuotient_bounds _ _).2 hfloor)
    _ = 2 ^ k := hsplit.symm

/-- Half a unit of the last place below a power of two, rounding goes up to it. -/
theorem roundUnits_lt_iff (n j : Nat) :
    roundUnits n 1 < 2 ^ (54 + j) ↔ n < 2 ^ (54 + j) - 2 ^ j := by
  have hhalf : 0 < 2 ^ j := Nat.two_pow_pos j
  have hpower : 2 ^ (54 + j) = 2 ^ 54 * 2 ^ j := Nat.pow_add ..
  have hbelow : 2 ^ (53 + j) = 2 ^ 53 * 2 ^ j := Nat.pow_add ..
  rcases Nat.lt_or_ge n (2 ^ (53 + j)) with hsmall | hlarge
  · -- far below: rounding stays below the power before
    have hround := roundUnits_le (n := n) (d := 1) (k := 53 + j) (by rwa [Nat.div_one])
    refine iff_of_true ?_ ?_ <;> omega
  rcases Nat.lt_or_ge n (2 ^ (54 + j)) with hfits | hover
  · -- the last power of two, in which the spacing is two halves
    have hlog : n.log2 = 53 + j := by
      have hne : n ≠ 0 := by omega
      have hge : 53 + j ≤ n.log2 := (Nat.le_log2 hne).2 hlarge
      have hlt : n.log2 < 54 + j := (Nat.log2_lt hne).2 hfits
      omega
    have hspacing : spacing n 1 = 2 * 2 ^ j := by
      rw [spacing_eq, Nat.div_one, hlog, ← Nat.pow_succ']
      congr 1
      omega
    have hsplit := Nat.div_add_mod n (2 * 2 ^ j)
    have hrest : n % (2 * 2 ^ j) < 2 * 2 ^ j := Nat.mod_lt _ (by omega)
    have hwhole : n / (2 * 2 ^ j) < 2 ^ 53 := by
      rw [Nat.div_lt_iff_lt_mul (by omega)]
      omega
    have hscale : roundUnits n 1 < 2 ^ (54 + j) ↔ roundQuotient n (2 * 2 ^ j) < 2 ^ 53 := by
      have hproduct : 2 ^ (54 + j) = 2 ^ 53 * (2 * 2 ^ j) := by omega
      rw [roundUnits, hspacing, Nat.one_mul, hproduct]
      exact Nat.mul_lt_mul_right (by omega)
    rw [hscale]
    unfold roundQuotient
    generalize n / (2 * 2 ^ j) = whole at hsplit hwhole ⊢
    generalize n % (2 * 2 ^ j) = rest at hsplit hrest ⊢
    rcases Nat.lt_or_ge (whole + 1) (2 ^ 53) with hinner | hlast
    · -- not the last number in it: even the neighbour above is below
      have hbound : (2 * 2 ^ j) * (whole + 1) ≤ (2 * 2 ^ j) * (2 ^ 53 - 1) :=
        Nat.mul_le_mul_left _ (by omega)
      rw [Nat.mul_succ] at hbound
      refine iff_of_true ?_ (by omega)
      dsimp only
      split
      · omega
      · split
        · exact hinner
        · split <;> omega
    · -- the last number is odd, so a half goes up
      obtain rfl : whole = 2 ^ 53 - 1 := by omega
      have hodd : ¬(2 ^ 53 - 1) % 2 = 0 := by decide
      dsimp only
      rw [if_neg hodd, ite_self]
      split
      · refine iff_of_true ?_ ?_ <;> omega
      · refine iff_of_false ?_ ?_ <;> omega
  · have hround := le_roundUnits (n := n) (d := 1) (k := 54 + j) (by rwa [Nat.div_one])
    refine iff_of_false ?_ ?_ <;> omega

/-- A magnitude is finite if it is not too large. -/
theorem isFinite_ofMagnitude (negative : Bool) (m : Nat) :
    (ofMagnitude negative m).isFinite = decide (m < overflow) := by
  rcases ofMagnitude_cases negative m with ⟨hfits, hfinite⟩ | ⟨hover, hinfinite⟩
  · rw [hfinite, decide_eq_true hfits]
    rfl
  · rw [hinfinite, decide_eq_false (Nat.not_lt.2 hover)]
    rfl

/-- An integer is rounded to less than a power of two if it is below by more than half a spacing. -/
theorem roundUnits_mul_lt_iff (m i j : Nat) :
    roundUnits (m * 2 ^ j) 1 < 2 ^ (54 + (i + j)) ↔ m < 2 ^ (54 + i) - 2 ^ i := by
  rw [roundUnits_lt_iff, ← Nat.add_assoc, Nat.pow_add 2 (54 + i) j, Nat.pow_add 2 i j,
    ← Nat.sub_mul]
  exact Nat.mul_lt_mul_right (Nat.two_pow_pos j)

theorem overflow_eq : overflow = 2 ^ (54 + (970 + 1074)) := by
  have hexponent : 2098 = 54 + (970 + 1074) := rfl
  delta overflow
  rw [hexponent]
  generalize 54 + (970 + 1074) = j
  rfl

theorem unitsPerOne_eq : unitsPerOne = 2 ^ 1074 := by
  delta unitsPerOne
  generalize 1074 = j
  rfl

/-- A natural number is read as a finite double just if it is below `2 ^ 1024 - 2 ^ 970`. -/
theorem isFinite_ofDecimal_natCast (negative : Bool) (m : Nat) :
    (ofDecimal negative m 0).isFinite = true ↔ m < 2 ^ 1024 - 2 ^ 970 := by
  have hexponent : 54 + 970 = 1024 := rfl
  have hround := roundUnits_mul_lt_iff m 970 1074
  rw [← unitsPerOne_eq, ← overflow_eq, hexponent] at hround
  have hdecimal : ofDecimal negative m 0 =
      ofMagnitude negative (roundUnits (m * unitsPerOne) 1) := by
    rw [ofDecimal_eq_ofRatio, ofRatio, Int.toNat_zero, Int.neg_zero, Int.toNat_zero, Nat.pow_zero,
      Nat.mul_one]
  rw [hdecimal, isFinite_ofMagnitude, decide_eq_true_eq]
  exact hround

end DwmIpc.Double
