/-!
# Double-precision numbers, exactly

A finite double is a sign and a whole number of units of `2 ^ -1074`, the
smallest positive double, so every value is exact and equality is equality of
the two fields. The one place that rounds is `Double.ofRatio`: it rounds a
quotient of natural numbers to 53 significant bits (fewer near zero), to the
nearest, a tie to the even neighbour.
-/

namespace DwmIpc

/-- A double-precision number. `finite negative magnitude` is `± magnitude * 2 ^ -1074`. -/
inductive Double where
  | finite (negative : Bool) (magnitude : Nat)
  | infinite (negative : Bool)
  | nan
  deriving DecidableEq, Hashable, Inhabited

namespace Double

/-- The number of units of `2 ^ -1074` in 1. -/
def unitsPerOne : Nat := Nat.pow 2 1074

/-- The first magnitude that is no longer finite. -/
def overflow : Nat := Nat.pow 2 2098

/-- The quotient of two numbers rounded to the nearest whole number, a half to the even one. -/
def roundQuotient (n d : Nat) : Nat :=
  let whole := n / d
  let rest := n % d
  if 2 * rest < d then whole
  else if d < 2 * rest then whole + 1
  else if whole % 2 = 0 then whole
  else whole + 1

/-- The spacing of doubles around `n / d` units, as a power of two. -/
def spacing (n d : Nat) : Nat :=
  Nat.pow 2 ((n / d).log2 - 52)

/-- `n / d` units rounded to a magnitude that a double can have if it is not too large. -/
def roundUnits (n d : Nat) : Nat :=
  roundQuotient n (d * spacing n d) * spacing n d

/-- The double of a magnitude, infinite when it is too large. -/
def ofMagnitude (negative : Bool) (magnitude : Nat) : Double :=
  if magnitude < overflow then .finite negative magnitude else .infinite negative

/-- The double nearest to `± n / d`. -/
def ofRatio (negative : Bool) (n d : Nat) : Double :=
  ofMagnitude negative (roundUnits (n * unitsPerOne) d)

/-- The double nearest to `± m * 10 ^ e`. The two guards keep the powers small: beyond them the
value overflows, or is far less than half of the smallest double. -/
def ofDecimal (negative : Bool) (m : Nat) (e : Int) : Double :=
  if m = 0 then .finite negative 0
  else if 400 < e then .infinite negative
  else if e < -400 - m.log2 then .finite negative 0
  else if 0 ≤ e then ofRatio negative (m * Nat.pow 10 e.toNat) 1
  else ofRatio negative m (Nat.pow 10 (-e).toNat)

/-- Neither infinite nor a NaN. -/
def isFinite : Double → Bool
  | finite .. => true
  | _ => false

/-- The whole part, towards zero; `none` for an infinity or a NaN. -/
def truncate? : Double → Option Int
  | finite negative magnitude =>
    let whole : Int := ((magnitude / unitsPerOne : Nat) : Int)
    some (if negative then -whole else whole)
  | _ => none

/-- The double with the other sign. -/
def negate : Double → Double
  | finite negative magnitude => finite (!negative) magnitude
  | infinite negative => infinite (!negative)
  | nan => nan

/-- The sum of two magnitudes with signs; numbers that cancel each other give the positive zero. -/
def addFinite (s : Bool) (a : Nat) (t : Bool) (b : Nat) : Double :=
  if s = t then ofMagnitude s (roundUnits (a + b) 1)
  else if b < a then ofMagnitude s (roundUnits (a - b) 1)
  else if a < b then ofMagnitude t (roundUnits (b - a) 1)
  else .finite false 0

/-- The sum of two doubles; infinities of different signs have none. -/
def add : Double → Double → Double
  | finite s a, finite t b => addFinite s a t b
  | infinite s, infinite t => if s = t then .infinite s else .nan
  | nan, _ | _, nan => .nan
  | infinite s, _ | _, infinite s => .infinite s

/-- The product of two doubles; zero and infinity have none. -/
def mul : Double → Double → Double
  | finite s a, finite t b => ofMagnitude (s != t) (roundUnits (a * b) unitsPerOne)
  | nan, _ | _, nan => .nan
  | infinite s, infinite t => .infinite (s != t)
  | infinite s, finite t a | finite t a, infinite s => if a = 0 then .nan else .infinite (s != t)

/-- The integer that a double is equal to. -/
def whole? : Double → Option Int
  | finite negative magnitude =>
    if magnitude % unitsPerOne = 0 then truncate? (finite negative magnitude) else none
  | _ => none

end Double

end DwmIpc
