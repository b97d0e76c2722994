import StepTrace.Text

/-!
# Splitting a text

The parts of a text between the places of a character. There is always a part
before the first place and one after the last.
-/

namespace StepTrace.Text

/-- The parts of a text, where the last characters of the first part have been read
    already, the last one first. -/
def splitAfter (mark : Char) (read : List Char) : List Char → List (List Char)
  | [] => [read.reverse]
  | c :: rest =>
    if c = mark then read.reverse :: splitAfter mark [] rest
    else splitAfter mark (c :: read) rest

/-- The parts of a text between the places of a character. -/
def split (mark : Char) (text : List Char) : List (List Char) := splitAfter mark [] text

/-- Parts with a separator between each two. -/
def join {α : Type} (separator : List α) : List (List α) → List α
  | [] => []
  | [part] => part
  | part :: rest => part ++ separator ++ join separator rest

/-- Texts with a separator between each two. -/
def joined (separator : Text) (parts : List Text) : Text :=
  ⟨join separator.points (parts.map points)⟩

/-- What was read already belongs to the first part. -/
theorem splitAfter_eq (mark : Char) (read text : List Char) :
    splitAfter mark read text = (split mark text).modifyHead (read.reverse ++ ·) := by
  induction text generalizing read with
  | nil => simp [split, splitAfter]
  | cons c rest ih =>
    by_cases here : c = mark
    · simp [split, splitAfter, here]
    · rw [split, splitAfter, splitAfter, if_neg here, if_neg here, ih (c :: read), ih [c]]
      cases split mark rest <;> simp

/-- A character is a place to split at or belongs to the first part. -/
theorem split_cons (mark c : Char) (rest : List Char) :
    split mark (c :: rest) =
      if c = mark then [] :: split mark rest else (split mark rest).modifyHead (c :: ·) := by
  by_cases here : c = mark
  · simp [split, splitAfter, here]
  · simp [split, splitAfter, here, splitAfter_eq mark [c]]

/-- There is always a part. -/
theorem split_ne_nil (mark : Char) (text : List Char) : split mark text ≠ [] := by
  induction text with
  | nil => simp [split, splitAfter]
  | cons c rest ih =>
    rw [split_cons]
    split
    · simp
    · cases parts : split mark rest with
      | nil => exact absurd parts ih
      | cons first others => simp

/-- The parts make up the text again. -/
theorem join_split (mark : Char) (text : List Char) : join [mark] (split mark text) = text := by
  induction text with
  | nil => rfl
  | cons c rest ih =>
    rw [split_cons]
    cases parts : split mark rest with
    | nil => exact absurd parts (split_ne_nil mark rest)
    | cons first others =>
      rw [parts] at ih
      by_cases here : c = mark
      · simp [here, join, ih]
      · cases others <;> simp_all [join]

end StepTrace.Text
