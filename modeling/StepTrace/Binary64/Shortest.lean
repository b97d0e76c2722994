import StepTrace.Binary64.Decimal

/-!
# The shortest decimal text

A finite number is written with the fewest decimal digits that read back as the
number itself, and of those digits with the ones nearest to it. For each count of
digits only the two neighbours of the number among the decimals with that many
digits have to be tried. The text is positional for exponents from -4 to 15, has
at least one digit on each side of its point, and otherwise has an exponent with
a sign and at least two digits.
-/

namespace StepTrace.Binary64

/-- A whole number times a power of ten. -/
structure Decimal where
  coefficient : Nat
  exponent : Int
  deriving DecidableEq, Repr

/-- The ratio of a number of units to a power of ten. -/
def gridRatio (units : Nat) : Int → Nat × Nat
  | .ofNat power => (units, unitsPerOne * Nat.pow 10 power)
  | .negSucc below => (units * Nat.pow 10 (below + 1), unitsPerOne)

/-- The exponent of the leading decimal digit of a positive number of units. The
    ratio of the logarithms gives it up to one, and two comparisons decide. -/
def leadingExponent (units : Nat) : Int :=
  let guess : Int := Int.fdiv (((units.log2 : Int) - 1074) * 30103) 100000
  let atLeast := fun exponent => let (num, den) := gridRatio units exponent; den ≤ num
  if atLeast (guess + 1) then guess + 1 else if atLeast guess then guess else guess - 1

/-- The two neighbours of a number of units among the multiples of a power of
    ten, the nearer one first and the even one when both are as near. -/
def gridNeighbours (units : Nat) (exponent : Int) : List Decimal :=
  let (num, den) := gridRatio units exponent
  let low := num / den
  let twice := 2 * (num % den)
  if twice < den ∨ (twice = den ∧ low % 2 = 0) then [⟨low, exponent⟩, ⟨low + 1, exponent⟩]
  else [⟨low + 1, exponent⟩, ⟨low, exponent⟩]

/-- A decimal that reads as the given number. -/
def ReadsAs (x : Binary64) (decimal : Decimal) : Prop :=
  ofDecimal x.isNegative decimal.coefficient decimal.exponent = x

instance (x : Binary64) (decimal : Decimal) : Decidable (ReadsAs x decimal) :=
  inferInstanceAs (Decidable (_ = _))

/-- The decimal with the fewest digits that reads as a finite number. Seventeen
    digits are enough; the last resort is the exact value. -/
def shortest (x : Binary64) : Decimal :=
  let first := leadingExponent x.units
  let found := (List.range 17).findSome? fun (below : Nat) =>
    (gridNeighbours x.units (first - below)).find? fun decimal => ReadsAs x decimal
  found.getD ⟨x.units * Nat.pow 5 1074, -1074⟩

/-! ## Layout -/

/-- A decimal exponent with its mark, its sign and at least two digits. -/
def exponentText (exponent : Int) : List Char :=
  'e' :: (if exponent < 0 then '-' else '+') :: (Nat.toDigits 10 exponent.natAbs).leftpad 2 '0'

/-- Digits with a point after so many of them, filled up with zeros so that a
    digit stands on each side. -/
def positional (digits : List Char) (whole : Nat) : List Char :=
  let filled := digits.rightpad (whole + 1) '0'
  filled.take whole ++ '.' :: filled.drop whole

/-- Digits, the first of which has the given decimal exponent. -/
def layout (digits : List Char) (exponent : Int) : List Char :=
  if exponent < -4 ∨ 16 ≤ exponent then
    match digits with
    | [digit] => digit :: exponentText exponent
    | _ => positional digits 1 ++ exponentText exponent
  else if exponent < 0 then
    '0' :: '.' :: (List.replicate (-exponent - 1).toNat '0' ++ digits)
  else positional digits (exponent.toNat + 1)

/-- The magnitude of a finite number as text. -/
def magnitudeText (x : Binary64) : List Char :=
  if x.units = 0 then ['0', '.', '0']
  else
    let decimal := shortest x
    let digits := Nat.toDigits 10 decimal.coefficient
    let significant := (digits.reverse.dropWhile (· == '0')).reverse
    layout significant (decimal.exponent + digits.length - 1)

/-- A number as text, with the given words for infinity and for what is no number. -/
def textWith (infinity noNumber : List Char) (x : Binary64) : List Char :=
  let sign := if x.isNegative then ['-'] else []
  match x with
  | nan => noNumber
  | infinite _ => sign ++ infinity
  | finite _ _ _ => sign ++ magnitudeText x

/-- A number as it is printed. -/
def text (x : Binary64) : List Char := x.textWith ['i', 'n', 'f'] ['n', 'a', 'n']

end StepTrace.Binary64
