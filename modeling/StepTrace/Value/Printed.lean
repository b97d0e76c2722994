import StepTrace.Binary64.Shortest
import StepTrace.Scope
import StepTrace.Text.Integer
import StepTrace.Text.Quoted
import StepTrace.Text.Split

/-!
# Values as printed

The text of a value in the output of a program. A text is printed as it is and,
inside a list or a dictionary, between quotes. A value that holds an integer with
too many digits has no text.
-/

namespace StepTrace.Value

mutual

/-- A value as it is printed inside another one. -/
def inspected? : Value → Option (List Char)
  | int n => Text.decimal? n
  | float x => some x.text
  | str text => some (Text.quoted text)
  | bool b => some (if b then "True".toList else "False".toList)
  | null => some "None".toList
  | list items => do
    let texts ← inspectedItems? items
    return '[' :: Text.join [',', ' '] texts ++ [']']
  | dict entries => do
    let texts ← inspectedEntries? entries
    return '\x7b' :: Text.join [',', ' '] texts ++ ['\x7d']

/-- The items of a list as they are printed. -/
def inspectedItems? : List Value → Option (List (List Char))
  | [] => some []
  | item :: rest => do
    let text ← inspected? item
    let texts ← inspectedItems? rest
    return text :: texts

/-- The entries of a dictionary as they are printed. -/
def inspectedEntries? : List (Text × Value) → Option (List (List Char))
  | [] => some []
  | (key, value) :: rest => do
    let text ← inspected? value
    let texts ← inspectedEntries? rest
    return (Text.quoted key ++ ':' :: ' ' :: text) :: texts

end

/-- A value as it is printed. -/
def printed? : Value → Option Text
  | str text => some text
  | value => (inspected? value).map Text.ofChars

end StepTrace.Value
