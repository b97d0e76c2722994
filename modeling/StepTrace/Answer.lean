import StepTrace.Numeral
import StepTrace.Text.Blank
import StepTrace.Text.Integer
import StepTrace.Value

/-!
# Answers

What a typed answer is taken for. A numeral with an optional sign, alone between
white space, is a number; everything else, a number that cannot be represented
included, is the text as it was typed.
-/

namespace StepTrace

/-- An answer to the question for a variable. -/
structure Answer where
  target : String
  text : Text
  deriving DecidableEq, Repr

namespace Answer

/-- The number that a numeral with a sign is, if it can be represented. -/
def number? (negative : Bool) (numeral : Numeral) : Option Number :=
  if numeral.isInteger then
    if numeral.whole.length ≤ Text.digitLimit then
      some (.int (Text.signed negative (Text.natOfDigits numeral.whole)))
    else none
  else
    let x := numeral.toBinary64 negative
    if x.isFinite then some (.float x) else none

/-- The number that a text is, if it is one. -/
def readNumber? (text : List Char) : Option Number :=
  let (negative, body) := Text.splitSign (Text.trim text)
  match Numeral.scan body with
  | some (numeral, []) => number? negative numeral
  | _ => none

/-- The value of a typed text. -/
def value (typed : Text) : Value :=
  (typed.chars?.bind readNumber?).elim (.str typed) Number.toValue

end Answer

end StepTrace
