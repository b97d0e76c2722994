import StepTrace.Binary64

/-!
# Reading a decimal numeral

The number nearest to a coefficient times a power of ten. The power is computed
only where it can matter: a numeral far beyond the greatest finite number is
infinite and one far below the least positive number is zero.
-/

namespace StepTrace.Binary64

/-- The number nearest to `coefficient` times ten to the `exponent`. -/
def ofDecimal (negative : Bool) (coefficient : Nat) (exponent : Int) : Binary64 :=
  if coefficient = 0 then signedZero negative
  else
    match exponent with
    | .ofNat power =>
      if 400 < power then infinite negative
      else ofRatio negative (coefficient * Nat.pow 10 power * unitsPerOne) 1
    | .negSucc below =>
      if coefficient.log2 + 1081 < 3 * (below + 1) then signedZero negative
      else ofRatio negative (coefficient * unitsPerOne) (Nat.pow 10 (below + 1))

end StepTrace.Binary64
