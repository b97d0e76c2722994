import Mathlib.Data.List.TakeWhile
import StepTrace.Text.Identifier
import StepTrace.Token.Lexer

/-!
# Names

The names that a line may hold: a letter of the alphabet or an underscore, and then letters,
digits and underscores. Such a name is an identifier, so an answer may set the variable that it
names.
-/

namespace StepTrace

/-- A text that the lines of a program may use as a name. -/
def IsName : List Char → Prop
  | [] => False
  | c :: rest => isNameStart c = true ∧ ∀ other ∈ rest, isNamePart other = true

theorem IsName.exists_cons {text : List Char} (named : IsName text) :
    ∃ c rest, text = c :: rest ∧ isNameStart c = true ∧ ∀ other ∈ rest, isNamePart other = true := by
  cases text with
  | nil => exact named.elim
  | cons c rest => exact ⟨c, rest, rfl, named⟩

theorem IsName.part {text : List Char} (named : IsName text) {c : Char} (member : c ∈ text) :
    isNamePart c = true := by
  cases text with
  | nil => exact named.elim
  | cons first rest =>
    rcases List.mem_cons.mp member with rfl | later
    · have starts := named.1
      simp only [isNameStart, Bool.or_eq_true] at starts
      simp only [isNamePart, Char.isAlphanum, Bool.or_eq_true]
      rcases starts with letter | underscore
      · exact .inl (.inl letter)
      · exact .inr underscore
    · exact named.2 c later

/-! ## Identifiers -/

private theorem inRanges_of_mem {ranges : List (Nat × Nat)} {first last : Nat} {c : Char}
    (member : (first, last) ∈ ranges) (above : first ≤ c.toNat) (below : c.toNat ≤ last) :
    Text.inRanges ranges c = true := by
  rw [Text.inRanges, List.any_eq_true]
  exact ⟨(first, last), member, by simp [above, below]⟩

theorem isAlpha_iff {c : Char} :
    c.isAlpha = true ↔ 0x41 ≤ c.toNat ∧ c.toNat ≤ 0x5A ∨ 0x61 ≤ c.toNat ∧ c.toNat ≤ 0x7A := by
  unfold Char.isAlpha Char.isUpper Char.isLower
  simp only [Bool.or_eq_true, Bool.and_eq_true, decide_eq_true_eq, ge_iff_le,
    UInt32.le_iff_toNat_le]
  rfl

theorem isNameStart_iff {c : Char} : isNameStart c = true ↔ c.isAlpha = true ∨ c = '_' := by
  simp [isNameStart]

theorem isNamePart_iff {c : Char} :
    isNamePart c = true ↔ isNameStart c = true ∨ 0x30 ≤ c.toNat ∧ c.toNat ≤ 0x39 := by
  have digit : c.isDigit = true ↔ 0x30 ≤ c.toNat ∧ c.toNat ≤ 0x39 := Char.isDigit_iff_toNat
  simp only [isNamePart, isNameStart, Char.isAlphanum, Bool.or_eq_true, beq_iff_eq, digit]
  grind

private theorem starts_of_isNameStart {c : Char} (starts : isNameStart c = true) :
    Text.inRanges Text.identifierStartRanges c = true := by
  rcases isNameStart_iff.mp starts with letter | rfl
  · rcases isAlpha_iff.mp letter with ⟨above, below⟩ | ⟨above, below⟩
    · exact inRanges_of_mem List.mem_cons_self above below
    · exact inRanges_of_mem
        (List.mem_cons_of_mem _ (List.mem_cons_of_mem _ List.mem_cons_self)) above below
  · rfl

private theorem continues_of_isNamePart {c : Char} (follows : isNamePart c = true) :
    Text.inRanges Text.identifierContinueRanges c = true := by
  rcases isNamePart_iff.mp follows with starts | ⟨above, below⟩
  · rcases isNameStart_iff.mp starts with letter | rfl
    · rcases isAlpha_iff.mp letter with ⟨above, below⟩ | ⟨above, below⟩
      · exact inRanges_of_mem (List.mem_cons_of_mem _ List.mem_cons_self) above below
      · exact inRanges_of_mem (List.mem_cons_of_mem _ (List.mem_cons_of_mem _
          (List.mem_cons_of_mem _ List.mem_cons_self))) above below
    · rfl
  · exact inRanges_of_mem List.mem_cons_self above below

/-- A name is an identifier. -/
theorem IsName.isIdentifier {text : List Char} (named : IsName text) :
    Text.isIdentifier text = true := by
  cases text with
  | nil => exact named.elim
  | cons c rest =>
    rw [Text.isIdentifier, Bool.and_eq_true, List.all_eq_true]
    exact ⟨starts_of_isNameStart named.1, fun other member =>
      continues_of_isNamePart (named.2 other member)⟩

/-! ## Characters -/

private theorem bounds_of_isNameStart {c : Char} (starts : isNameStart c = true) :
    0x39 < c.toNat ∧ c.toNat ≤ 0x7A := by
  rcases isNameStart_iff.mp starts with letter | rfl
  · have := isAlpha_iff.mp letter
    omega
  · decide

private theorem bounds_of_isNamePart {c : Char} (part : isNamePart c = true) :
    0x30 ≤ c.toNat ∧ c.toNat ≤ 0x7A := by
  rcases isNamePart_iff.mp part with starts | digit
  · have := bounds_of_isNameStart starts
    omega
  · omega

theorem not_isDigit_of_isNameStart {c : Char} (starts : isNameStart c = true) :
    Text.isDigit c = false := by
  have bounds := bounds_of_isNameStart starts
  have zeros : ∀ first ∈ Text.decimalZeros, first = 0x30 ∨ 0x7A < first := by decide
  rw [Text.isDigit, Text.digitValue?, Option.isSome_eq_false_iff, Option.isNone_iff_eq_none,
    List.findSome?_eq_none_iff]
  intro first member
  have := zeros first member
  exact if_neg (by omega)

/-- The characters of names and numbers are not white space. -/
theorem not_isBlank_of_isNamePart {c : Char} (part : isNamePart c = true) :
    Text.isBlank c = false := by
  have bounds := bounds_of_isNamePart part
  have ranges : ∀ range ∈ Text.blankRanges, range.2 < 0x30 ∨ 0x7A < range.1 := by decide
  refine Bool.eq_false_iff.mpr fun blank => ?_
  rw [Text.isBlank, Text.inRanges, List.any_eq_true] at blank
  obtain ⟨range, member, inside⟩ := blank
  have := ranges range member
  simp only [Bool.and_eq_true, decide_eq_true_eq] at inside
  omega

end StepTrace
