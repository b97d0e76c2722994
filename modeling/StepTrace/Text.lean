import StepTrace.Text.CodePoint

/-!
# Texts

The texts that a program handles. A text is a row of code points, and a code point is a character
or half of a pair of UTF-16 units: an escape may write such a half alone, and then it is kept as
it is. No file holds one, since none can be written in UTF-8; a JSON text may write one.
-/

namespace StepTrace

/-- A code point of a text: a character, or half of a pair that stands alone, counted from the
    first of the halves. -/
inductive Text.Point where
  | char (c : Char)
  | half (unit : Fin 0x800)
  deriving DecidableEq, Repr

/-- A text that a program handles. -/
structure Text where
  points : List Text.Point
  deriving DecidableEq, Repr, Inhabited

namespace Text

namespace Point

/-- The code point with a code; nothing beyond the last code. -/
def ofCode? (code : Nat) : Option Point :=
  match charOfCode? code with
  | some c => some (char c)
  | none => if inside : code - 0xD800 < 0x800 then some (half ⟨code - 0xD800, inside⟩) else none

/-- The code of a code point. -/
def code : Point → Nat
  | char c => c.toNat
  | half unit => 0xD800 + unit

/-- The character that a code point is, if it is one. -/
def char? : Point → Option Char
  | char c => some c
  | half _ => none

/-- Whether a code point is a character. -/
def isChar (point : Point) : Bool := point.char?.isSome

/-- The code of a character is its own. -/
theorem ofCode?_char (c : Char) : ofCode? c.toNat = some (char c) := by
  have known : charOfCode? c.toNat = some c := by
    rw [charOfCode?, dif_pos (by exact c.valid)]
    rfl
  rw [ofCode?, known]

end Point

/-! ## Texts of characters -/

/-- The text of characters. -/
def ofChars (chars : List Char) : Text := ⟨chars.map .char⟩

/-- The text of a string. -/
@[coe] def ofString (string : String) : Text := ofChars string.toList

instance : Coe String Text := ⟨ofString⟩

/-- The characters of a text that holds nothing else. -/
def chars? (text : Text) : Option (List Char) := text.points.mapM Point.char?

/-- A text holds nothing but characters. -/
def IsWhole (text : Text) : Prop := ∀ point ∈ text.points, point.isChar = true

instance : DecidablePred IsWhole := fun text =>
  inferInstanceAs (Decidable (∀ point ∈ text.points, point.isChar = true))

/-- Whether nothing is in a text. -/
def isEmpty (text : Text) : Bool := text.points.isEmpty

instance : Append Text := ⟨fun front back => ⟨front.points ++ back.points⟩⟩

@[simp] theorem points_append (front back : Text) :
    (front ++ back).points = front.points ++ back.points := rfl

@[simp] theorem points_ofChars (chars : List Char) : (ofChars chars).points = chars.map .char := rfl

@[simp] theorem ofChars_inj {one other : List Char} :
    ofChars one = ofChars other ↔ one = other := by
  simp [ofChars, List.map_inj_right]

theorem ofChars_append (front back : List Char) :
    ofChars front ++ ofChars back = ofChars (front ++ back) := by
  show mk (front.map Point.char ++ back.map Point.char) = mk ((front ++ back).map Point.char)
  rw [List.map_append]

@[simp] theorem ofChars_nil_append (text : Text) : ofChars [] ++ text = text := rfl

@[simp] theorem append_ofChars_nil (text : Text) : text ++ ofChars [] = text :=
  congrArg mk (List.append_nil text.points)

theorem ofString_append (front back : String) :
    ofString (front ++ back) = ofString front ++ ofString back := by
  rw [ofString, String.toList_append, ← ofChars_append]
  rfl

@[simp] theorem ofString_ofList (chars : List Char) :
    ofString (String.ofList chars) = ofChars chars := by
  rw [ofString, String.toList_ofList]

@[simp] theorem ofString_inj {one other : String} : (one : Text) = other ↔ one = other := by
  rw [ofString, ofString, ofChars_inj, String.toList_inj]

@[simp] theorem isWhole_ofChars (chars : List Char) : (ofChars chars).IsWhole := by
  intro point member
  obtain ⟨c, -, rfl⟩ := List.mem_map.mp member
  rfl

@[simp] theorem isWhole_ofString (string : String) : IsWhole string := isWhole_ofChars string.toList

@[simp] theorem isWhole_append {front back : Text} :
    (front ++ back).IsWhole ↔ front.IsWhole ∧ back.IsWhole := List.forall_mem_append

/-- A text that holds nothing but characters is the text of them. -/
theorem chars?_eq_some {text : Text} {chars : List Char} :
    text.chars? = some chars ↔ text = ofChars chars := by
  obtain ⟨points⟩ := text
  induction points generalizing chars with
  | nil => simp [chars?, ofChars, eq_comm]
  | cons point rest ih =>
    simp only [chars?, ofChars, mk.injEq] at ih
    cases point with
    | half unit => cases chars <;> simp [chars?, ofChars, Point.char?]
    | char c =>
      cases found : rest.mapM Point.char? with
      | none => cases chars <;> simp [chars?, ofChars, Point.char?, found, ← ih]
      | some others => cases chars <;> simp [chars?, ofChars, Point.char?, found, ← ih]

end Text

end StepTrace
