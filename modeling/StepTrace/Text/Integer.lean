import StepTrace.Text.Blank
import StepTrace.Text.DecimalDigit

/-!
# Integers as text

Writing an integer in decimal, and reading one that stands alone in a text, as
the limits of a run are given. Either way an integer has at most `digitLimit`
digits; when one is read, leading zeros count.
-/

namespace StepTrace.Text

/-- The number of decimal digits that an integer may have as text. -/
def digitLimit : Nat := 4300

/-- The decimal digits of an integer, after a minus sign when it is negative. -/
def decimal (n : Int) : List Char :=
  if n < 0 then '-' :: Nat.toDigits 10 n.natAbs else Nat.toDigits 10 n.natAbs

/-- An integer as text, or nothing when it has too many digits. -/
def decimal? (n : Int) : Option (List Char) :=
  if n.natAbs < Nat.pow 10 digitLimit then some (decimal n) else none

/-- Why a text is no integer. -/
inductive IntegerError where
  | malformed
  | tooLong (digits : Nat)
  deriving DecidableEq, Repr

/-- White space that may stand around an integer: all of it except the four
    separators of code 28 to 31. -/
def isOuterBlank (c : Char) : Bool :=
  isBlank c && !(0x1C ≤ c.toNat && c.toNat ≤ 0x1F)

/-- Digits, with single underscores between some of them. -/
def isGrouped : List Char → Bool
  | [] => false
  | [c] => isDigit c
  | c :: '_' :: rest => isDigit c && isGrouped rest
  | c :: rest => isDigit c && isGrouped rest

/-- A leading sign, read as whether the number is negative, and what follows. -/
def splitSign : List Char → Bool × List Char
  | '-' :: rest => (true, rest)
  | '+' :: rest => (false, rest)
  | text => (false, text)

/-- The integer with a sign and a magnitude. -/
def signed (negative : Bool) (magnitude : Nat) : Int :=
  if negative then -(magnitude : Int) else magnitude

/-- Reads an integer that stands alone in a text: an optional sign and digits
    grouped by underscores. The number of digits is judged before what follows. -/
def readInt (text : List Char) : Except IntegerError Int :=
  let (negative, body) := splitSign (text.dropWhile isOuterBlank)
  let inRun := fun c => isDigit c || c == '_'
  let run := body.takeWhile inRun
  let digits := run.filter isDigit
  if isGrouped run = false then .error .malformed
  else if digitLimit < digits.length then .error (.tooLong digits.length)
  else if (body.dropWhile inRun).all isOuterBlank then .ok (signed negative (natOfDigits digits))
  else .error .malformed

end StepTrace.Text
