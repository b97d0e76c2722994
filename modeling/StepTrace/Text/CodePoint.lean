/-!
# Characters by their codes

The character of a code point, and the code point that a pair of UTF-16 units
stands for.
-/

namespace StepTrace.Text

/-- The character with a code. There is none for the halves of pairs of UTF-16 units, and
    none beyond the last code. -/
def charOfCode? (code : Nat) : Option Char :=
  if valid : code.isValidChar then some (Char.ofNatAux code valid) else none

/-- A unit that begins a pair. -/
def isHighUnit (unit : Nat) : Bool := 0xD800 ≤ unit && unit ≤ 0xDBFF

/-- A unit that ends a pair. -/
def isLowUnit (unit : Nat) : Bool := 0xDC00 ≤ unit && unit ≤ 0xDFFF

/-- The code of a pair of units. -/
def pairCode (high low : Nat) : Nat := 0x10000 + (high - 0xD800) * 0x400 + (low - 0xDC00)

end StepTrace.Text
