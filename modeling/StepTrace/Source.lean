import StepTrace.Text.Blank
import StepTrace.Text.Split

/-!
# Lines

A program as its numbered lines, and the block of lines that a loop governs: the
lines after its header up to the first one that is not blank and not indented
deeper than the header. Blank lines belong to no block and end none.
-/

namespace StepTrace

/-- A line with its number, counted from one. -/
structure Line where
  number : Nat
  text : List Char
  deriving DecidableEq, Repr

namespace Line

/-- The line without the white space at its ends. -/
def content (line : Line) : List Char := Text.trim line.text

/-- The width of the line's indentation. -/
def indent (line : Line) : Nat := Text.indent line.text

/-- Nothing but white space. -/
def isBlank (line : Line) : Bool := line.content.isEmpty

/-- A blank line or a comment, which does nothing. -/
def isInert (line : Line) : Bool := line.isBlank || line.content.head? == some '#'

end Line

namespace Source

/-- The numbered lines of a program; a text without a line end is one line. -/
def lines (code : List Char) : List Line :=
  (Text.split '\n' code).zipIdx 1 |>.map fun (text, number) => ⟨number, text⟩

/-! ## Blocks -/

/-- Whether a line does not end the block of a header with an indentation. -/
def continues (indent : Nat) (line : Line) : Bool := line.isBlank || indent < line.indent

/-- The lines of the block at the front of the lines after a header. -/
def block (indent : Nat) (lines : List Line) : List Line :=
  (lines.takeWhile (continues indent)).filter fun line => !line.isBlank

/-- The lines after the block at their front. -/
def afterBlock (indent : Nat) (lines : List Line) : List Line :=
  lines.dropWhile (continues indent)

/-- A block is no longer than the lines it is taken from. -/
theorem length_block_le (indent : Nat) (lines : List Line) :
    (block indent lines).length ≤ lines.length :=
  Nat.le_trans (List.length_filter_le ..) (List.takeWhile_sublist ..).length_le

/-- What follows a block is no longer than the lines it is taken from. -/
theorem length_afterBlock_le (indent : Nat) (lines : List Line) :
    (afterBlock indent lines).length ≤ lines.length :=
  (List.dropWhile_sublist ..).length_le

end Source

end StepTrace
