/-!
# Ranges of code points

A property of characters is given as a list of ranges of code points.
-/

namespace StepTrace.Text

/-- Membership in one of the ranges, both ends included. -/
def inRanges (ranges : List (Nat × Nat)) (c : Char) : Bool :=
  ranges.any fun range => decide (range.1 ≤ c.toNat) && decide (c.toNat ≤ range.2)

end StepTrace.Text
