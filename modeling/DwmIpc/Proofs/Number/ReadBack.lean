import DwmIpc.Number.Shortest
import DwmIpc.Proofs.Number.Rounding

/-!
# The shortest decimal is read back

Whatever decimal `Decimal.shortest` settles on is read as the double that it was
made for (`toDouble_shortest`): a decimal that the search finds was tested, and the
exact decimal, which stands in when the search finds none, is rounded to itself.
-/

namespace DwmIpc.Decimal

open Double

/-- A decimal that was found was tested. -/
theorem readsBack_of_nearest? {magnitude : Nat} {exponent : Int} {d : Decimal}
    (h : nearest? magnitude exponent = some d) : d.readsBack magnitude = true := by
  unfold nearest? at h
  simp only at h
  split at h
  next => cases h
  next hbelow habove =>
    obtain rfl := Option.some.inj h
    exact hbelow
  next hbelow habove =>
    obtain rfl := Option.some.inj h
    exact habove
  next hbelow habove =>
    -- both neighbours read back, so it does not matter which one is taken
    split at h
    · obtain rfl := Option.some.inj h
      exact hbelow
    · split at h
      · obtain rfl := Option.some.inj h
        exact habove
      · split at h
        · obtain rfl := Option.some.inj h
          exact hbelow
        · obtain rfl := Option.some.inj h
          exact habove

theorem readsBack_of_search {magnitude fuel : Nat} {exponent : Int} {d : Decimal}
    (h : search magnitude fuel exponent = some d) : d.readsBack magnitude = true := by
  induction fuel generalizing exponent with
  | zero => cases h
  | succ fuel ih =>
    rw [search] at h
    split at h
    next found hfound =>
      obtain rfl := Option.some.inj h
      exact readsBack_of_nearest? hfound
    next => exact ih h

theorem mul_pow_five_mul_unitsPerOne (magnitude : Nat) :
    magnitude * Nat.pow 5 1074 * unitsPerOne = magnitude * 10 ^ 1074 := by
  delta unitsPerOne
  generalize 1074 = j
  rw [Nat.mul_assoc]
  exact congrArg (magnitude * ·) (Nat.mul_pow 5 2 j).symm

/-- The exact decimal reads back without having been tested. -/
theorem toDouble_exact {magnitude : Nat} (h : Representable magnitude)
    (hfits : magnitude < overflow) :
    (exact magnitude).toDouble false = .finite false magnitude := by
  have hrounded (j : Nat) : roundUnits (magnitude * 10 ^ j) (10 ^ j) = magnitude :=
    roundUnits_of_representable h (Nat.pow_pos (by decide))
  have hwhole : (-1074 : Int).toNat = 0 := rfl
  have hplaces : (- -1074 : Int).toNat = 1074 := rfl
  unfold toDouble exact
  rw [ofDecimal_eq_ofRatio, hwhole, hplaces, Nat.pow_zero, Nat.mul_one, ofRatio,
    mul_pow_five_mul_unitsPerOne]
  generalize 1074 = j
  rw [hrounded, ofMagnitude_of_lt _ hfits]

/-- **The shortest decimal is read back.** -/
theorem toDouble_shortest {magnitude : Nat} (h : Representable magnitude)
    (hfits : magnitude < overflow) (negative : Bool) :
    (shortest magnitude).toDouble negative = .finite negative magnitude := by
  refine ofDecimal_sign ?_ negative
  unfold shortest
  cases hsearch : search magnitude 17 (leadingExponent magnitude) with
  | some d => exact eq_of_beq (readsBack_of_search hsearch)
  | none => exact toDouble_exact h hfits

end DwmIpc.Decimal
