import StepTrace.Json.Token
import StepTrace.Text.Blank

/-!
# Whole numbers in requests

A whole number may come as text. A text that is no integer as JSON writes it is
cleaned: the white space around it, a plus sign, zeros in front with underscores
among them, a point with zeros after it, and single underscores between other
characters are dropped. A minus sign is set aside for the cleaning of what follows
it. Only the text as it came is refused for its size; one that is too long when it
has been cleaned is refused as if it were no number.
-/

namespace StepTrace.Service

/-- Why a text is no whole number. -/
inductive WholeNumberError where
  | malformed
  /-- It begins with more digits than there may be, its sign counted as one. -/
  | tooLong
  deriving DecidableEq, Repr

/-- A minus sign in front of a text, and what follows it. -/
def splitMinus : List Char → Bool × List Char
  | '-' :: rest => (true, rest)
  | text => (false, text)

/-- The integer that a text is, as JSON writes integers. The number of digits is
    judged before what follows them. -/
def plainInteger (text : List Char) : Except WholeNumberError Int :=
  let (negative, body) := splitMinus text
  match Json.scanWhole body with
  | none => .error .malformed
  | some (digits, rest) =>
    if Text.digitLimit < digits.length + negative.toNat then .error .tooLong
    else if rest.isEmpty then .ok (Text.signed negative (Text.natOfDigits digits))
    else .error .malformed

/-! ## Cleaning -/

/-- A text without the white space around it. -/
def withoutBlanks (text : List Char) : List Char :=
  let rest := text.dropWhile Text.isOuterBlank
  (rest.reverse.dropWhile Text.isOuterBlank).reverse

/-- A text without a plus sign in front, after which no minus sign may come. -/
def withoutPlus : List Char → Option (List Char)
  | '+' :: '-' :: _ => none
  | '+' :: rest => some rest
  | text => some text

/-- A zero or an underscore. -/
def isFiller (c : Char) : Bool := c == '0' || c == '_'

/-- What may come after the zeros in front: another digit, or a minus sign. -/
def isLeader (c : Char) : Bool := Json.isDigit c || c == '-'

/-- A text without the zeros in front. The last of them is kept where nothing, or a
    point, follows. -/
def withoutZeros : List Char → Option (List Char)
  | [] => none
  | '0' :: rest =>
    let last := (rest.takeWhile isFiller).getLast?.getD '0'
    match rest.dropWhile isFiller with
    | [] => some [last]
    | '.' :: after => some (last :: '.' :: after)
    | c :: after => if isLeader c then some (c :: after) else none
  | c :: rest => if isLeader c then some (c :: rest) else none

/-- A text without a point that only zeros follow. -/
def withoutPoint (text : List Char) : List Char :=
  match text.dropWhile (· != '.') with
  | '.' :: '0' :: after =>
    if after.all (· == '0') then text.takeWhile (· != '.') else text
  | _ => text

/-- Whether two underscores stand side by side. -/
def hasDoubleMark : List Char → Bool
  | '_' :: '_' :: _ => true
  | _ :: rest => hasDoubleMark rest
  | [] => false

/-- A text without underscores, where none stands at an end or beside another. -/
def withoutMarks (text : List Char) : List Char :=
  if text.head? = some '_' ∨ text.getLast? = some '_' ∨ hasDoubleMark text = true then text
  else text.filter (· != '_')

/-- A text without what an integer in JSON may not have. -/
def cleaned? (text : List Char) : Option (List Char) := do
  let (negative, body) := splitMinus (← withoutPlus (withoutBlanks text))
  let digits := withoutMarks (withoutPoint (← withoutZeros body))
  return if negative then '-' :: digits else digits

/-- The whole number that a text is. -/
def wholeNumber (text : List Char) : Except WholeNumberError Int :=
  match plainInteger text with
  | .error .malformed =>
    match (cleaned? text).map plainInteger with
    | some (.ok n) => .ok n
    | _ => .error .malformed
  | known => known

end StepTrace.Service
