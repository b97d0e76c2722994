import StepTrace.Fault

/-!
# Arithmetic

The four operations on numbers. Integers are exact and of any size; a quotient,
and any operation with a floating-point operand, is a floating-point number,
which has to be finite.
-/

namespace StepTrace.Number

/-- A number after a sign. -/
def signed : Sign → Number → Number
  | .plus, number => number
  | .minus, int n => .int (-n)
  | .minus, float x => .float x.neg

/-- Zero of either kind. -/
def isZero : Number → Bool
  | int n => n == 0
  | float x => x.isZero

/-- The floating-point number nearest to a number. -/
def toBinary64 : Number → Except Cause Binary64
  | float x => .ok x
  | int n => (Binary64.ofInt? n).elim (.error .integerTooLarge) .ok

/-- An operation on floating-point numbers. -/
def combine : Operator → Binary64 → Binary64 → Binary64
  | .add => Binary64.add
  | .sub => Binary64.sub
  | .mul => Binary64.mul
  | .div => Binary64.div

/-- A finite number as a result. -/
def finite (x : Binary64) : Except Cause Number :=
  if x.isFinite then .ok (.float x) else .error .outOfRange

/-- An operation on integers, where the divisor is not zero. -/
def combineInts : Operator → Int → Int → Except Cause Number
  | .add, m, n => .ok (.int (m + n))
  | .sub, m, n => .ok (.int (m - n))
  | .mul, m, n => .ok (.int (m * n))
  | .div, m, n => (Binary64.ofQuotient? m n).elim (.error .quotientTooLarge) finite

/-- An operation on two numbers. -/
def apply (op : Operator) (left right : Number) : Except Cause Number :=
  if op = .div ∧ right.isZero then .error .divisionByZero
  else
    match left, right with
    | int m, int n => combineInts op m n
    | _, _ => do
      let x ← left.toBinary64
      let y ← right.toBinary64
      finite (combine op x y)

end StepTrace.Number
