import StepTrace.Text.CodeRange

/-!
# Blank characters

The white space that surrounds a line or an answer, and how it is cut off. The
width of an indentation is the number of blank characters, whichever they are.
-/

namespace StepTrace.Text

/-- The code points of white space. -/
def blankRanges : List (Nat × Nat) :=
  [(0x0009, 0x000D), (0x001C, 0x0020), (0x0085, 0x0085), (0x00A0, 0x00A0), (0x1680, 0x1680),
    (0x2000, 0x200A), (0x2028, 0x2029), (0x202F, 0x202F), (0x205F, 0x205F), (0x3000, 0x3000)]

/-- White space. -/
def isBlank (c : Char) : Bool := inRanges blankRanges c

/-- A text without its leading white space. -/
def trimStart (text : List Char) : List Char := text.dropWhile isBlank

/-- A text without its trailing white space. -/
def trimEnd (text : List Char) : List Char := (text.reverse.dropWhile isBlank).reverse

/-- A text without the white space at its two ends. -/
def trim (text : List Char) : List Char := trimEnd (trimStart text)

/-- The number of leading blank characters. -/
def indent (text : List Char) : Nat := (text.takeWhile isBlank).length

end StepTrace.Text
