/-!
# Numbers from their digits

`Digits.value` is the number that digits to a base denote, the most significant
digit first. Digits are taken in stretches, so that a number of very many digits
needs few multiplications of long numbers; `value_eq_extend` says that this makes
no difference. Where an integer is read as a whole, its length is limited.
-/

namespace DwmIpc

/-- The most decimal digits an integer may have to be converted from or to text. -/
def maxDigits : Nat := 4300

namespace Digits

/-- Goes on with digits after those that denote `n`. -/
def extend (base n : Nat) (digits : List Nat) : Nat :=
  digits.foldl (fun n digit => n * base + digit) n

/-- How many digits are taken at a time. -/
def stretch : Nat := 1000

/-- Goes on with digits after those that denote `n`, `fuel` stretches and then the rest. -/
def extendByStretches (base : Nat) : (fuel n : Nat) → List Nat → Nat
  | 0, n, digits => extend base n digits
  | fuel + 1, n, digits =>
    let front := digits.take stretch
    extendByStretches base fuel (n * Nat.pow base front.length + extend base 0 front)
      (digits.drop stretch)

/-- The number that digits denote. -/
def value (base : Nat) (digits : List Nat) : Nat :=
  extendByStretches base (digits.length / stretch) 0 digits

theorem extend_eq_add (base n : Nat) (digits : List Nat) :
    extend base n digits = n * Nat.pow base digits.length + extend base 0 digits := by
  induction digits generalizing n with
  | nil => simp [extend]
  | cons digit rest ih =>
    have step (m : Nat) : extend base m (digit :: rest) = extend base (m * base + digit) rest := rfl
    have power : Nat.pow base (rest.length + 1) = base * Nat.pow base rest.length :=
      Nat.pow_succ'
    rw [step, step, ih, ih (0 * base + digit), List.length_cons, power, Nat.add_mul,
      Nat.mul_assoc, Nat.zero_mul, Nat.zero_add, Nat.add_assoc]

theorem extendByStretches_eq_extend (base fuel n : Nat) (digits : List Nat) :
    extendByStretches base fuel n digits = extend base n digits := by
  induction fuel generalizing n digits with
  | zero => rfl
  | succ fuel ih =>
    rw [extendByStretches, ih, ← extend_eq_add]
    simp only [extend, ← List.foldl_append, List.take_append_drop]

theorem value_eq_extend (base : Nat) (digits : List Nat) :
    value base digits = extend base 0 digits :=
  extendByStretches_eq_extend ..

end Digits

end DwmIpc
