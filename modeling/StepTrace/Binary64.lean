/-!
# Floating-point numbers

The binary floating-point numbers of 64 bits, as the fields of their format, and
the one rounding that every operation ends in. A finite number is a whole number
of units of 2^-1074, the least positive number, so sums, products, quotients and
decimal numerals are all exact ratios of units that are rounded once, to the
nearest number and to the even one of two nearest.
-/

namespace StepTrace

/-- The number of fractions of a significand, two to the power of 52. -/
abbrev fractionCount : Nat := 4503599627370496

/-- A number of the format, the signs of zeros and infinities included; there is
    one value that is not a number. -/
inductive Binary64 where
  | nan
  | infinite (negative : Bool)
  /-- A finite number, by its biased exponent and the fraction of its significand. -/
  | finite (negative : Bool) (exponent : Fin 2047) (fraction : Fin fractionCount)
  deriving DecidableEq, Repr

namespace Binary64

/-- The number of units in one. -/
def unitsPerOne : Nat := Nat.pow 2 1074

/-- The magnitude of a finite number in units; zero for the others. -/
def units : Binary64 → Nat
  | finite _ exponent fraction =>
    if exponent.val = 0 then fraction.val else (fractionCount + fraction.val) <<< (exponent.val - 1)
  | _ => 0

/-- The sign bit; what is not a number has none. -/
def isNegative : Binary64 → Bool
  | nan => false
  | infinite negative => negative
  | finite negative _ _ => negative

/-- A finite number as a signed number of units. -/
def signedUnits (x : Binary64) : Int :=
  if x.isNegative then -(x.units : Int) else x.units

/-- Neither infinite nor lacking a value. -/
def isFinite : Binary64 → Bool
  | finite _ _ _ => true
  | _ => false

/-- Either zero. -/
def isZero (x : Binary64) : Bool := x.isFinite && x.units == 0

/-- A zero. -/
def signedZero (negative : Bool) : Binary64 := finite negative 0 0

/-- The number with the opposite sign. -/
def neg : Binary64 → Binary64
  | nan => nan
  | infinite negative => infinite !negative
  | finite negative exponent fraction => finite (!negative) exponent fraction

/-! ## Rounding -/

/-- The whole number nearest to a ratio, the even one when two are nearest. -/
def roundHalfEven (num den : Nat) : Nat :=
  let quotient := num / den
  let twice := 2 * (num % den)
  if twice < den then quotient
  else if den < twice then quotient + 1
  else quotient + quotient % 2

/-- How many of the lowest bits of a number of units the format does not keep. -/
def spareBits (units : Nat) : Nat := units.log2 - 52

/-- A ratio rounded to a number of units with 53 significant bits. -/
def nearestUnits (num den : Nat) : Nat :=
  let spare := spareBits (num / den)
  roundHalfEven num (den <<< spare) <<< spare

/-- The number of a magnitude in units that has 53 significant bits, infinite
    when the exponent passes the greatest one. -/
def ofUnits (negative : Bool) (units : Nat) : Binary64 :=
  if units < fractionCount then finite negative 0 (Fin.ofNat fractionCount units)
  else
    let spare := spareBits units
    if fits : spare + 1 < 2047 then
      finite negative ⟨spare + 1, fits⟩ (Fin.ofNat fractionCount (units >>> spare))
    else infinite negative

/-- The number nearest to a ratio of units. -/
def ofRatio (negative : Bool) (num den : Nat) : Binary64 :=
  ofUnits negative (nearestUnits num den)

/-- The number nearest to a sum of units that is exact; a sum of zero takes the
    given sign. -/
def ofSignedUnits (signOfZero : Bool) (total : Int) : Binary64 :=
  if total = 0 then signedZero signOfZero else ofRatio (total < 0) total.natAbs 1

/-! ## Arithmetic -/

/-- The sum. Opposite infinities have none, and a sum that vanishes is positive
    unless both numbers are negative. -/
def add : Binary64 → Binary64 → Binary64
  | nan, _ | _, nan => nan
  | infinite negative, infinite other => if negative = other then infinite negative else nan
  | infinite negative, _ | _, infinite negative => infinite negative
  | x, y => ofSignedUnits (x.isNegative && y.isNegative) (x.signedUnits + y.signedUnits)

/-- The difference, the sum with the opposite number. -/
def sub (x y : Binary64) : Binary64 := x.add y.neg

/-- The product. Zero times infinity has no value. -/
def mul (x y : Binary64) : Binary64 :=
  let negative := x.isNegative != y.isNegative
  match x, y with
  | nan, _ | _, nan => nan
  | infinite _, other | other, infinite _ => if other.isZero then nan else infinite negative
  | x, y => ofRatio negative (x.units * y.units) unitsPerOne

/-- The quotient. A quotient by zero is infinite, and two zeros or two
    infinities have none. -/
def div (x y : Binary64) : Binary64 :=
  let negative := x.isNegative != y.isNegative
  match x, y with
  | nan, _ | _, nan => nan
  | infinite _, infinite _ => nan
  | infinite _, _ => infinite negative
  | _, infinite _ => signedZero negative
  | x, y =>
    if y.isZero then (if x.isZero then nan else infinite negative)
    else ofRatio negative (x.units * unitsPerOne) y.units

/-! ## Integers -/

/-- The number nearest to an integer, or nothing when it is beyond all finite ones. -/
def ofInt? (n : Int) : Option Binary64 :=
  match ofRatio (n < 0) (n.natAbs * unitsPerOne) 1 with
  | finite negative exponent fraction => some (finite negative exponent fraction)
  | _ => none

/-- The number nearest to a quotient of integers, or nothing when it is beyond
    all finite ones. A zero takes the sign of the quotient of the signs. -/
def ofQuotient? (num den : Int) : Option Binary64 :=
  match ofRatio (decide (num < 0) != decide (den < 0)) (num.natAbs * unitsPerOne) den.natAbs with
  | finite negative exponent fraction => some (finite negative exponent fraction)
  | _ => none

/-- A finite number without its fractional part; zero for the others. -/
def truncate (x : Binary64) : Int :=
  let magnitude : Int := x.units / unitsPerOne
  if x.isNegative then -magnitude else magnitude

/-- A finite number without a fractional part. -/
def isIntegral (x : Binary64) : Bool := x.isFinite && x.units % unitsPerOne == 0

end Binary64

end StepTrace
