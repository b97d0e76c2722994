import Mathlib.Data.List.TakeWhile
import StepTrace.Text.Encode

/-!
# Texts that can be written

A text holds nothing but characters, or there is a first half of a pair in it that stands alone.
In the first case it is written as it is, in the second it is refused at this half
(`Text.encode_eq_ok_iff`, `Text.encode_half`), whatever characters follow (`Text.encode_append`).
-/

namespace StepTrace.Text

variable {text : Text} {string : String}

/-- A text is that of a string, or a half of a pair comes after some characters. -/
theorem string_or_half (text : Text) : (∃ string : String, text = string) ∨
    ∃ (front : List Char) (unit : Fin 0x800) (rest : List Point),
      text = ⟨front.map .char ++ .half unit :: rest⟩ := by
  obtain ⟨points⟩ := text
  induction points with
  | nil => exact .inl ⟨"", rfl⟩
  | cons point others ih =>
    cases point with
    | half unit => exact .inr ⟨[], unit, others, rfl⟩
    | char c =>
      rcases ih with ⟨string, same⟩ | ⟨front, unit, rest, same⟩
      · obtain rfl := congrArg points same
        exact .inl ⟨String.ofList (c :: string.toList), by rw [ofString_ofList]; rfl⟩
      · obtain rfl := congrArg points same
        exact .inr ⟨c :: front, unit, rest, rfl⟩

theorem not_isWhole_half (front : List Char) (unit : Fin 0x800) (rest : List Point) :
    ¬ IsWhole ⟨front.map .char ++ .half unit :: rest⟩ := by
  intro whole
  cases whole (.half unit) (by simp)

theorem isWhole_iff : text.IsWhole ↔ ∃ string : String, text = string := by
  refine ⟨fun whole => (string_or_half text).resolve_right ?_, ?_⟩
  · rintro ⟨front, unit, rest, rfl⟩
    exact not_isWhole_half front unit rest whole
  · rintro ⟨string, rfl⟩
    exact isWhole_ofString string

theorem encode_ofString (string : String) : encode string = .ok string := by
  have all : (ofString string).points.dropWhile Point.isChar = [] :=
    List.dropWhile_eq_nil_iff.mpr (isWhole_ofString string)
  have chars : (ofString string).points.filterMap Point.char? = string.toList := by
    rw [ofString, points_ofChars, List.filterMap_map]
    exact List.filterMap_some
  rw [encode, all, chars, String.ofList_toList]

/-- The first half of a pair is where a text is refused. -/
theorem encode_half (front : List Char) (unit : Fin 0x800) (rest : List Point) :
    encode ⟨front.map .char ++ .half unit :: rest⟩ =
      .error ⟨front.length, .half unit,
        1 + (rest.takeWhile fun point => !point.isChar).length⟩ := by
  have chars : ∀ point ∈ front.map Point.char, point.isChar = true := isWhole_ofChars front
  have found : (front.map Point.char ++ Point.half unit :: rest).dropWhile Point.isChar =
      .half unit :: rest := by
    rw [List.dropWhile_append_of_pos chars, List.dropWhile_cons_of_neg Bool.false_ne_true]
  have before : (front.map Point.char ++ Point.half unit :: rest).takeWhile Point.isChar =
      front.map .char := by
    rw [List.takeWhile_append_of_pos chars, List.takeWhile_cons_of_neg Bool.false_ne_true,
      List.append_nil]
  rw [encode, found, before, List.length_map]

/-- A text is written as the string that it is the text of. -/
theorem encode_eq_ok_iff : encode text = .ok string ↔ text = string := by
  rcases string_or_half text with ⟨own, rfl⟩ | ⟨front, unit, rest, rfl⟩
  · rw [encode_ofString, ofString_inj, Except.ok.injEq]
  · rw [encode_half]
    exact iff_of_false nofun fun same =>
      not_isWhole_half front unit rest (isWhole_iff.mpr ⟨string, same⟩)

/-- What keeps a text from being written keeps it with characters behind it, too. -/
theorem encode_append {error : EncodeError} (stops : encode text = .error error)
    (string : String) : encode (text ++ string) = .error error := by
  rcases string_or_half text with ⟨own, rfl⟩ | ⟨front, unit, rest, rfl⟩
  · rw [encode_ofString] at stops
    cases stops
  · have halves (rest : List Point) :
        ((rest ++ string.toList.map Point.char).takeWhile fun point => !point.isChar) =
          rest.takeWhile fun point => !point.isChar := by
      induction rest with
      | nil => cases string.toList <;> rfl
      | cons point others ih => rw [List.cons_append, List.takeWhile_cons, List.takeWhile_cons, ih]
    have whole : (⟨front.map .char ++ .half unit :: rest⟩ : Text) ++ (string : Text) =
        ⟨front.map .char ++ .half unit :: (rest ++ string.toList.map .char)⟩ :=
      congrArg mk (List.append_assoc ..)
    rw [whole, encode_half, halves, ← stops, encode_half]

end StepTrace.Text
