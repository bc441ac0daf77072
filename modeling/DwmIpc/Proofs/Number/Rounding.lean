import DwmIpc.Number.Double
import Mathlib.Algebra.Group.Nat.Defs

/-!
# Rounding to a double

What a decimal is read as depends on its value only: `ofDecimal_eq_ofRatio` says
that the two guards of `Double.ofDecimal` make no difference, and a quotient may
be reduced or extended (`ofRatio_congr`), so two spellings of one number are read
as the same double (`ofDecimal_shift`).

A magnitude is `Representable` if it has no more significant bits than a double
holds. Rounding gives such magnitudes (`representable_roundUnits`) and leaves them
as they are (`roundUnits_of_representable`).
-/

namespace DwmIpc.Double

/-! ## Quotients -/

/-- A quotient that is whole is not rounded. -/
theorem roundQuotient_mul {d : Nat} (hd : 0 < d) (q : Nat) : roundQuotient (q * d) d = q := by
  unfold roundQuotient
  simp only [Nat.mul_div_cancel _ hd, Nat.mul_mod_left]
  rw [if_pos (by omega)]

/-- A fraction that is extended is rounded to the same. -/
theorem roundQuotient_extend (n d : Nat) {c : Nat} (hc : 0 < c) :
    roundQuotient (n * c) (d * c) = roundQuotient n d := by
  have hbelow : 2 * (n % d * c) < d * c ↔ 2 * (n % d) < d := by
    rw [← Nat.mul_assoc]
    exact Nat.mul_lt_mul_right hc
  have habove : d * c < 2 * (n % d * c) ↔ d < 2 * (n % d) := by
    rw [← Nat.mul_assoc]
    exact Nat.mul_lt_mul_right hc
  unfold roundQuotient
  simp only [Nat.mul_div_mul_right _ _ hc, Nat.mul_mod_mul_right, hbelow, habove]

/-- Rounding goes to one of the two neighbours. -/
theorem roundQuotient_bounds (n d : Nat) :
    n / d ≤ roundQuotient n d ∧ roundQuotient n d ≤ n / d + 1 := by
  unfold roundQuotient
  simp only
  split
  · omega
  · split
    · omega
    · split <;> omega

/-- Less than a half is rounded to nothing. -/
theorem roundQuotient_small {n d : Nat} (h : 2 * n < d) : roundQuotient n d = 0 := by
  have hlt : n < d := by omega
  unfold roundQuotient
  simp only [Nat.div_eq_of_lt hlt, Nat.mod_eq_of_lt hlt]
  rw [if_pos h]

/-! ## Magnitudes -/

/-- The spacing of doubles of a size, which have 53 binary digits. -/
theorem spacing_eq (n d : Nat) : spacing n d = 2 ^ ((n / d).log2 - 52) := rfl

theorem spacing_pos (n d : Nat) : 0 < spacing n d :=
  Nat.two_pow_pos _

theorem roundUnits_extend (n d : Nat) {c : Nat} (hc : 0 < c) :
    roundUnits (n * c) (d * c) = roundUnits n d := by
  have hspacing : spacing (n * c) (d * c) = spacing n d := by
    rw [spacing_eq, spacing_eq, Nat.mul_div_mul_right _ _ hc]
  unfold roundUnits
  rw [hspacing, Nat.mul_right_comm d c, roundQuotient_extend _ _ hc]

/-- The magnitude has at most 53 significant bits. -/
def Representable (magnitude : Nat) : Prop :=
  2 ^ (magnitude.log2 - 52) ∣ magnitude

/-- A multiple of a power of two that is not too large for it can be represented. -/
theorem representable_of_le_of_dvd {r k : Nat} (hle : r ≤ 2 ^ (53 + k)) (hdvd : 2 ^ k ∣ r) :
    Representable r := by
  unfold Representable
  by_cases htop : r = 2 ^ (53 + k)
  · -- the power of two itself: one bit is significant
    rw [htop, Nat.log2_two_pow]
    exact Nat.pow_dvd_pow 2 (by omega)
  · by_cases hzero : r = 0
    · rw [hzero]
      exact Nat.dvd_zero _
    · have hlog : r.log2 < 53 + k := (Nat.log2_lt hzero).2 (by omega)
      exact Nat.dvd_trans (Nat.pow_dvd_pow 2 (by omega)) hdvd

/-- What is rounded can be represented. -/
theorem representable_roundUnits (n d : Nat) : Representable (roundUnits n d) := by
  have hquotient : roundQuotient n (d * spacing n d) ≤ 2 ^ 53 := by
    have hrange : n / d < 2 ^ (53 + ((n / d).log2 - 52)) :=
      Nat.lt_of_lt_of_le Nat.lt_log2_self (Nat.pow_le_pow_right (by decide) (by omega))
    rw [Nat.pow_add, ← spacing_eq] at hrange
    have hwhole : n / (d * spacing n d) < 2 ^ 53 := by
      rw [← Nat.div_div_eq_div_mul]
      exact (Nat.div_lt_iff_lt_mul (spacing_pos n d)).2 hrange
    have hneighbour := (roundQuotient_bounds n (d * spacing n d)).2
    omega
  refine representable_of_le_of_dvd (k := (n / d).log2 - 52) ?_ ?_
  · rw [Nat.pow_add]
    exact Nat.mul_le_mul_right _ hquotient
  · exact Nat.dvd_mul_left _ _

/-- What can be represented is rounded to itself. -/
theorem roundUnits_of_representable {m d : Nat} (h : Representable m) (hd : 0 < d) :
    roundUnits (m * d) d = m := by
  have hspacing : spacing (m * d) d = 2 ^ (m.log2 - 52) := by
    rw [spacing_eq, Nat.mul_div_cancel _ hd]
  obtain ⟨k, hk⟩ := h
  have hpos : 0 < d * 2 ^ (m.log2 - 52) := Nat.mul_pos hd (Nat.two_pow_pos _)
  have hwhole : m * d = k * (d * 2 ^ (m.log2 - 52)) := by
    calc m * d = 2 ^ (m.log2 - 52) * k * d := by rw [← hk]
      _ = k * (d * 2 ^ (m.log2 - 52)) := by ac_rfl
  unfold roundUnits
  rw [hspacing, hwhole, roundQuotient_mul hpos, Nat.mul_comm]
  exact hk.symm

/-- Rounding does not fall below a power of two that was reached. -/
theorem le_roundUnits {n d k : Nat} (h : 2 ^ k ≤ n / d) : 2 ^ k ≤ roundUnits n d := by
  have hsome : n / d ≠ 0 := by
    have := Nat.two_pow_pos k
    omega
  have hk : k ≤ (n / d).log2 := (Nat.le_log2 hsome).2 h
  have hsplit : 2 ^ (n / d).log2 = 2 ^ ((n / d).log2 - ((n / d).log2 - 52)) * spacing n d := by
    rw [spacing_eq, ← Nat.pow_add]
    congr 1
    omega
  have hfloor : 2 ^ ((n / d).log2 - ((n / d).log2 - 52)) ≤ n / (d * spacing n d) := by
    rw [← Nat.div_div_eq_div_mul, Nat.le_div_iff_mul_le (spacing_pos n d), ← hsplit]
    exact Nat.log2_self_le hsome
  calc 2 ^ k ≤ 2 ^ (n / d).log2 := Nat.pow_le_pow_right (by decide) hk
    _ = 2 ^ ((n / d).log2 - ((n / d).log2 - 52)) * spacing n d := hsplit
    _ ≤ roundQuotient n (d * spacing n d) * spacing n d :=
      Nat.mul_le_mul_right _ (Nat.le_trans hfloor (roundQuotient_bounds _ _).1)

/-- Less than half a unit is rounded to zero. -/
theorem roundUnits_small {n d : Nat} (h : 2 * n < d) : roundUnits n d = 0 := by
  have hspacing : spacing n d = 1 := by
    rw [spacing_eq, Nat.div_eq_of_lt (by omega)]
    rfl
  unfold roundUnits
  rw [hspacing, Nat.mul_one, Nat.mul_one, roundQuotient_small h]

/-! ## Decimals -/

/-- Quotients of one value are read as one double. -/
theorem ofRatio_congr (negative : Bool) {n d n' d' : Nat} (hd : 0 < d) (hd' : 0 < d')
    (h : n * d' = n' * d) : ofRatio negative n d = ofRatio negative n' d' := by
  have hunits : n * unitsPerOne * d' = n' * unitsPerOne * d := by
    rw [Nat.mul_right_comm, h, Nat.mul_right_comm]
  unfold ofRatio
  rw [← roundUnits_extend (n * unitsPerOne) d hd', hunits, Nat.mul_comm d d',
    roundUnits_extend (n' * unitsPerOne) d' hd]

-- The exponents are generalised, lest the powers be computed.
theorem two_pow_mul_unitsPerOne (k : Nat) : 2 ^ k * unitsPerOne = 2 ^ (k + 1074) := by
  delta unitsPerOne
  generalize 1074 = j
  exact (Nat.pow_add 2 k j).symm

theorem unitsPerOne_pos : 0 < unitsPerOne := by
  delta unitsPerOne
  generalize 1074 = j
  exact Nat.two_pow_pos j

theorem overflow_pos : 0 < overflow := by
  delta overflow
  generalize 2098 = j
  exact Nat.two_pow_pos j

/-- Large powers of two are too large. -/
theorem overflow_le {k : Nat} (h : 2098 ≤ k) : overflow ≤ 2 ^ k := by
  delta overflow
  generalize 2098 = j at h ⊢
  exact Nat.pow_le_pow_right Nat.two_pos h

theorem ofMagnitude_of_lt (negative : Bool) {m : Nat} (h : m < overflow) :
    ofMagnitude negative m = .finite negative m :=
  if_pos h

theorem ofMagnitude_of_le (negative : Bool) {m : Nat} (h : overflow ≤ m) :
    ofMagnitude negative m = .infinite negative :=
  if_neg (Nat.not_lt.2 h)

/-- A magnitude that is too large makes an infinity. -/
theorem ofMagnitude_cases (negative : Bool) (m : Nat) :
    m < overflow ∧ ofMagnitude negative m = .finite negative m ∨
      overflow ≤ m ∧ ofMagnitude negative m = .infinite negative :=
  (Nat.lt_or_ge m overflow).imp (fun h => ⟨h, ofMagnitude_of_lt _ h⟩)
    fun h => ⟨h, ofMagnitude_of_le _ h⟩

/-- What is too large for the first guard is too large for a double. -/
theorem ofRatio_large (negative : Bool) {m k : Nat} (hm : m ≠ 0) (hk : 400 < k) :
    ofRatio negative (m * 10 ^ k) 1 = .infinite negative := by
  have hpower : 2 ^ (3 * k) ≤ m * 10 ^ k := by
    calc 2 ^ (3 * k) = (2 ^ 3) ^ k := Nat.pow_mul ..
      _ ≤ 10 ^ k := Nat.pow_le_pow_left (by decide) k
      _ ≤ m * 10 ^ k := Nat.le_mul_of_pos_left _ (by omega)
  have hunits : 2 ^ (3 * k + 1074) ≤ m * 10 ^ k * unitsPerOne / 1 := by
    rw [Nat.div_one, ← two_pow_mul_unitsPerOne]
    exact Nat.mul_le_mul_right _ hpower
  exact ofMagnitude_of_le _ (Nat.le_trans (overflow_le (by omega)) (le_roundUnits hunits))

/-- What is too small for the second guard is less than half of the smallest double. -/
theorem ofRatio_small (negative : Bool) {m k : Nat} (hk : 400 + m.log2 < k) :
    ofRatio negative m (10 ^ k) = .finite negative 0 := by
  have hpower : 2 * (m * unitsPerOne) < 10 ^ k := by
    calc 2 * (m * unitsPerOne) < 2 * (2 ^ (m.log2 + 1) * unitsPerOne) := by
          refine Nat.mul_lt_mul_of_pos_left ?_ (by decide)
          exact Nat.mul_lt_mul_of_pos_right Nat.lt_log2_self unitsPerOne_pos
      _ = 2 ^ (m.log2 + 1 + 1074 + 1) := by
          rw [two_pow_mul_unitsPerOne, ← Nat.pow_succ']
      _ ≤ 2 ^ (3 * k) := Nat.pow_le_pow_right (by decide) (by omega)
      _ = (2 ^ 3) ^ k := Nat.pow_mul ..
      _ ≤ 10 ^ k := Nat.pow_le_pow_left (by decide) k
  rw [ofRatio, roundUnits_small hpower, ofMagnitude_of_lt _ overflow_pos]

/-- A decimal is read as the quotient that it is; the guards make no difference. -/
theorem ofDecimal_eq_ofRatio (negative : Bool) (m : Nat) (e : Int) :
    ofDecimal negative m e = ofRatio negative (m * 10 ^ e.toNat) (10 ^ (-e).toNat) := by
  unfold ofDecimal
  split
  next hzero =>
    have hnone : roundUnits (0 * unitsPerOne) (10 ^ (-e).toNat) = 0 :=
      roundUnits_small (by rw [Nat.zero_mul]; exact Nat.pow_pos (by decide))
    rw [hzero, Nat.zero_mul, ofRatio, hnone, ofMagnitude_of_lt _ overflow_pos]
  next hsome =>
    split
    next hlarge =>
      have hwhole : (-e).toNat = 0 := by omega
      rw [hwhole, Nat.pow_zero, ofRatio_large negative hsome (by omega)]
    next =>
      split
      next hsmall =>
        have hnone : e.toNat = 0 := by omega
        rw [hnone, Nat.pow_zero, Nat.mul_one, ofRatio_small negative (by omega)]
      next =>
        split
        next hwhole =>
          have hnone : (-e).toNat = 0 := by omega
          rw [hnone]
          rfl
        next hfraction =>
          have hnone : e.toNat = 0 := by omega
          rw [hnone, Nat.pow_zero, Nat.mul_one]
          rfl

/-- Zeros may be moved from the digits of a decimal to its exponent. -/
theorem ofDecimal_shift (negative : Bool) (m k : Nat) (e : Int) :
    ofDecimal negative (m * 10 ^ k) (e - k) = ofDecimal negative m e := by
  rw [ofDecimal_eq_ofRatio, ofDecimal_eq_ofRatio]
  refine ofRatio_congr negative (Nat.pow_pos (by decide)) (Nat.pow_pos (by decide)) ?_
  have hexponents : k + (e - k).toNat + (-e).toNat = e.toNat + (-(e - k)).toNat := by omega
  calc m * 10 ^ k * 10 ^ (e - k).toNat * 10 ^ (-e).toNat
      = m * 10 ^ (k + (e - k).toNat + (-e).toNat) := by
        rw [Nat.pow_add, Nat.pow_add]
        ac_rfl
    _ = m * 10 ^ e.toNat * 10 ^ (-(e - k)).toNat := by
        rw [hexponents, Nat.pow_add]
        ac_rfl

/-! ## Doubles -/

/-- A double that is infinite, no number, or of a magnitude that a double can have. -/
inductive Genuine : Double → Prop
  | finite {negative : Bool} {magnitude : Nat} :
      Representable magnitude → magnitude < overflow → Genuine (.finite negative magnitude)
  | infinite {negative : Bool} : Genuine (.infinite negative)
  | nan : Genuine .nan

/-- Rounding makes doubles that there are. -/
theorem genuine_ofRatio (negative : Bool) (n d : Nat) : Genuine (ofRatio negative n d) := by
  obtain ⟨hfits, hfinite⟩ | ⟨-, hinfinite⟩ :=
    ofMagnitude_cases negative (roundUnits (n * unitsPerOne) d)
  · rw [ofRatio, hfinite]
    exact .finite (representable_roundUnits _ _) hfits
  · rw [ofRatio, hinfinite]
    exact .infinite

/-- What is read is a double. -/
theorem genuine_ofDecimal (negative : Bool) (m : Nat) (e : Int) :
    Genuine (ofDecimal negative m e) := by
  rw [ofDecimal_eq_ofRatio]
  exact genuine_ofRatio ..

/-- The sign of a decimal is that of the double. -/
theorem ofDecimal_sign {m magnitude : Nat} {e : Int}
    (h : ofDecimal false m e = .finite false magnitude) (negative : Bool) :
    ofDecimal negative m e = .finite negative magnitude := by
  rw [ofDecimal_eq_ofRatio, ofRatio] at h ⊢
  generalize roundUnits (m * 10 ^ e.toNat * unitsPerOne) (10 ^ (-e).toNat) = rounded at h ⊢
  obtain ⟨hfits, hfinite⟩ | ⟨-, hinfinite⟩ := ofMagnitude_cases false rounded
  · obtain rfl := (Double.finite.inj (hfinite.symm.trans h)).2
    exact if_pos hfits
  · cases hinfinite.symm.trans h

end DwmIpc.Double
