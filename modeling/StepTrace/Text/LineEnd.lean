import StepTrace.Text.Split

/-!
# Line ends

A text that is read from a file or a terminal has line feeds alone as line ends:
a carriage return counts as one, together with the line feed after it.
-/

namespace StepTrace.Text

/-- A text with unified line ends, after the part that has been read already, the
    last character first. -/
def unifyAfter (read : List Char) : List Char → List Char
  | [] => read.reverse
  | '\r' :: '\n' :: rest => unifyAfter ('\n' :: read) rest
  | c :: rest => unifyAfter ((if c = '\r' then '\n' else c) :: read) rest

/-- A text whose line ends are line feeds. -/
def unifyLineEnds (text : List Char) : List Char := unifyAfter [] text

/-- The lines that are typed in a text, of which the last one needs no line end. -/
def typedLines (text : List Char) : List (List Char) :=
  let lines := split '\n' (unifyLineEnds text)
  if lines.getLast? = some [] then lines.dropLast else lines

end StepTrace.Text
