import StepTrace.Json.Quoted
import StepTrace.Value.Printed

/-!
# Values in JSON

The JSON text of a value, on one line or with one item to a line. An infinite
number and what is no number are written by name. A value that holds an integer
with too many digits has no text.
-/

namespace StepTrace.Json

/-- How values are laid out. -/
structure Layout where
  /-- Whether characters beyond ASCII are escaped. -/
  asciiOnly : Bool
  /-- The spaces by which nested items are indented, one item to a line; nothing
      for a text of one line. -/
  step : Option Nat
  deriving DecidableEq, Repr

/-- One line, with the characters as they are. -/
def inline : Layout := ⟨false, none⟩

/-- One item to a line, two spaces deeper at each level, in ASCII. -/
def indented : Layout := ⟨true, some 2⟩

/-- What separates the items of one level. -/
def Layout.separator (layout : Layout) (depth : Nat) : List Char :=
  match layout.step with
  | none => [',', ' ']
  | some step => ',' :: '\n' :: List.replicate (step * depth) ' '

/-- The line break before the items of a level, or before the bracket after them. -/
def Layout.lineBreak (layout : Layout) (depth : Nat) : List Char :=
  match layout.step with
  | none => []
  | some step => '\n' :: List.replicate (step * depth) ' '

/-- Items between brackets; there is no line break where there is no item. -/
def enclosed (layout : Layout) (depth : Nat) (first last : Char) (items : List Text) : Text :=
  match items with
  | [] => .ofChars [first, last]
  | _ =>
    .ofChars (first :: layout.lineBreak (depth + 1)) ++
      Text.joined (.ofChars (layout.separator (depth + 1))) items ++
      .ofChars (layout.lineBreak depth ++ [last])

/-- A floating-point number in JSON. -/
def float (x : Binary64) : List Char := x.textWith "Infinity".toList "NaN".toList

mutual

/-- A value at a depth of nesting. -/
def text? (layout : Layout) (depth : Nat) : Value → Option Text
  | .int n => (Text.decimal? n).map .ofChars
  | .float x => some (.ofChars (float x))
  | .str text => some (quoted layout.asciiOnly text)
  | .bool b => some (if b then "true" else "false")
  | .null => some "null"
  | .list items => do
    let texts ← itemTexts? layout (depth + 1) items
    return enclosed layout depth '[' ']' texts
  | .dict entries => do
    let texts ← entryTexts? layout (depth + 1) entries
    return enclosed layout depth '\x7b' '\x7d' texts

/-- The items of a list. -/
def itemTexts? (layout : Layout) (depth : Nat) : List Value → Option (List Text)
  | [] => some []
  | item :: rest => do
    let text ← text? layout depth item
    let texts ← itemTexts? layout depth rest
    return text :: texts

/-- The entries of a dictionary. -/
def entryTexts? (layout : Layout) (depth : Nat) : List (Text × Value) → Option (List Text)
  | [] => some []
  | (key, value) :: rest => do
    let text ← text? layout depth value
    let texts ← entryTexts? layout depth rest
    return (quoted layout.asciiOnly key ++ (": " : Text) ++ text) :: texts

end

/-- The JSON text of a value. -/
def write? (layout : Layout) (value : Value) : Option Text := text? layout 0 value

theorem write?_int (layout : Layout) (n : Int) :
    write? layout (.int n) = (Text.decimal? n).map .ofChars := by
  rw [write?, text?]

theorem write?_str (layout : Layout) (text : Text) :
    write? layout (.str text) = some (quoted layout.asciiOnly text) := by
  rw [write?, text?]

end StepTrace.Json
