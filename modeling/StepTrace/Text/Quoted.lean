import StepTrace.Text
import StepTrace.Text.Hex
import StepTrace.Text.Printable

/-!
# Quoted text

How a text is shown between quotes: apostrophes stand around it unless it holds
an apostrophe and no double quote, the mark and the backslash are escaped, and a
character that cannot be printed is shown by its code, and so is half of a pair that
stands alone.
-/

namespace StepTrace.Text

/-- The mark around a text. -/
def quoteMark (text : Text) : Char :=
  if .char '\x27' ∈ text.points ∧ .char '\x22' ∉ text.points then '\x22' else '\x27'

/-- One character between quotes. -/
def quotedChar (mark c : Char) : List Char :=
  if c = mark ∨ c = '\\' then ['\\', c]
  else if c = '\n' then ['\\', 'n']
  else if c = '\r' then ['\\', 'r']
  else if c = '\t' then ['\\', 't']
  else if isPrintable c then [c]
  else if c.toNat < 0x100 then '\\' :: 'x' :: hexDigits 2 c.toNat
  else if c.toNat < 0x10000 then '\\' :: 'u' :: hexDigits 4 c.toNat
  else '\\' :: 'U' :: hexDigits 8 c.toNat

/-- One code point between quotes. -/
def quotedPoint (mark : Char) : Point → List Char
  | .char c => quotedChar mark c
  | .half unit => '\\' :: 'u' :: hexDigits 4 (Point.half unit).code

/-- A text as it is shown between quotes. -/
def quoted (text : Text) : List Char :=
  let mark := quoteMark text
  mark :: text.points.flatMap (quotedPoint mark) ++ [mark]

end StepTrace.Text
