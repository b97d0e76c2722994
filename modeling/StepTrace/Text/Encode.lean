import StepTrace.Text
import StepTrace.Text.Hex
import StepTrace.Text.Integer

/-!
# Texts to be written

A text is written in UTF-8, which has no form for half of a pair that stands alone. A text that
holds one is refused at the first of them, together with those that follow it at once.
-/

namespace StepTrace.Text

/-- The halves that keep a text from being written. -/
structure EncodeError where
  /-- The number of code points before them. -/
  offset : Nat
  first : Point
  count : Nat
  deriving DecidableEq, Repr

/-- The wording of an encoding error. -/
def EncodeError.message (error : EncodeError) : String :=
  let start := String.ofList (decimal error.offset)
  let halves :=
    if error.count = 1 then
      "character '\\u" ++ String.ofList (hexDigits 4 error.first.code) ++ "' in position " ++ start
    else
      let last := String.ofList (decimal (error.offset + error.count - 1))
      "characters in position " ++ start ++ "-" ++ last
  "'utf-8' codec can't encode " ++ halves ++ ": surrogates not allowed"

/-- The characters of a text, to be written. -/
def encode (text : Text) : Except EncodeError String :=
  match text.points.dropWhile Point.isChar with
  | [] => .ok (String.ofList (text.points.filterMap Point.char?))
  | first :: rest =>
    .error ⟨(text.points.takeWhile Point.isChar).length, first,
      1 + (rest.takeWhile fun point => !point.isChar).length⟩

end StepTrace.Text
