import StepTrace.Text
import StepTrace.Text.Hex

/-!
# Strings in JSON

A text between double quotes. The quote, the backslash and the control characters
are escaped; where only ASCII is wanted, every other character is written by its
UTF-16 units, and half of a pair by itself.
-/

namespace StepTrace.Json

/-- The letter of a character that has an escape of its own. -/
def shortEscape? (c : Char) : Option Char :=
  [('\x22', '\x22'), ('\\', '\\'), ('\n', 'n'), ('\r', 'r'), ('\t', 't'), ('\x0c', 'f'),
    ('\x08', 'b')].lookup c

/-- A UTF-16 unit as an escape. -/
def unitEscape (unit : Nat) : List Char := '\\' :: 'u' :: Text.hexDigits 4 unit

/-- The UTF-16 units of a character. -/
def units (c : Char) : List Nat :=
  if c.toNat < 0x10000 then [c.toNat]
  else [0xD800 + (c.toNat - 0x10000) / 0x400, 0xDC00 + (c.toNat - 0x10000) % 0x400]

/-- One character between quotes. -/
def quotedChar (asciiOnly : Bool) (c : Char) : List Char :=
  match shortEscape? c with
  | some letter => ['\\', letter]
  | none =>
    if c.toNat < 0x20 ∨ (asciiOnly = true ∧ 0x7F ≤ c.toNat) then (units c).flatMap unitEscape
    else [c]

/-- One code point between quotes. -/
def quotedPoint (asciiOnly : Bool) : Text.Point → List Text.Point
  | .char c => (quotedChar asciiOnly c).map .char
  | .half unit =>
    if asciiOnly then (unitEscape (Text.Point.half unit).code).map .char else [.half unit]

/-- A text between double quotes. -/
def quoted (asciiOnly : Bool) (text : Text) : Text :=
  ⟨.char '\x22' :: text.points.flatMap (quotedPoint asciiOnly) ++ [.char '\x22']⟩

/-- Characters are quoted as characters. -/
theorem quoted_ofChars (asciiOnly : Bool) (text : List Char) : quoted asciiOnly (.ofChars text) =
    .ofChars ('\x22' :: text.flatMap (quotedChar asciiOnly) ++ ['\x22']) := by
  simp only [quoted, Text.points_ofChars, List.flatMap_map, quotedPoint]
  rw [← List.map_flatMap]
  simp [Text.ofChars]

end StepTrace.Json
