import StepTrace.Proofs.Name
import StepTrace.Proofs.Text.Blank

/-!
# Where numerals end

A numeral is read from the front of a text exactly where it is written there and what follows
does not continue it (`Numeral.scan_eq_some_iff`): each part of it, up to the exponent, takes as
many characters as it can.
-/

namespace StepTrace

open Text (isDigit isBlank)

namespace Numeral

variable {text rest more mark digits whole : List Char} {fraction : Option (List Char)}
  {numeral : Numeral} {c : Char}

/-! ## Exponents -/

/-- The letter of an exponent, with a sign or without. -/
def IsMark (mark : List Char) : Prop :=
  ∃ letter, (letter = 'e' ∨ letter = 'E') ∧
    (mark = [letter] ∨ mark = [letter, '+'] ∨ mark = [letter, '-'])

/-- An exponent begins in front of a text: its mark and a digit. -/
def Raises (text : List Char) : Prop :=
  ∃ mark digit rest, text = mark ++ digit :: rest ∧ IsMark mark ∧ isDigit digit = true

theorem isMark_of_exponentLetter? (read : exponentLetter? text = some (mark, rest)) :
    text = mark ++ rest ∧ IsMark mark := by
  unfold exponentLetter? at read
  split at read
  · next letter after =>
    by_cases marks : letter = 'e' ∨ letter = 'E'
    · rw [if_pos marks] at read
      split at read <;> obtain ⟨rfl, rfl⟩ := Prod.mk.inj (Option.some.inj read)
      · exact ⟨rfl, letter, marks, .inr (.inl rfl)⟩
      · exact ⟨rfl, letter, marks, .inr (.inr rfl)⟩
      · exact ⟨rfl, letter, marks, .inl rfl⟩
    · simp [marks] at read
  · cases read

/-- A mark is read before a digit, which is no sign. -/
theorem exponentLetter?_of_isMark (isMark : IsMark mark) (digit : isDigit c = true) :
    exponentLetter? (mark ++ c :: rest) = some (mark, c :: rest) := by
  obtain ⟨letter, marks, rfl | rfl | rfl⟩ := isMark
  · rw [List.singleton_append, exponentLetter?, if_pos marks]
    · rintro after same
      obtain ⟨rfl, -⟩ := List.cons.inj same
      exact absurd digit (by decide)
    · rintro after same
      obtain ⟨rfl, -⟩ := List.cons.inj same
      exact absurd digit (by decide)
  · simp [exponentLetter?, marks]
  · simp [exponentLetter?, marks]

theorem scanExponent_eq_some_iff : scanExponent text = (some (mark, digits), rest) ↔
    text = mark ++ (digits ++ rest) ∧ IsMark mark ∧ digits ≠ [] ∧
      (∀ c ∈ digits, isDigit c = true) ∧ Clear isDigit rest := by
  constructor
  · intro read
    unfold scanExponent at read
    split at read
    · cases read
    · next letter after front =>
      obtain ⟨rfl, isMark⟩ := isMark_of_exponentLetter? front
      dsimp only at read
      split at read
      · cases read
      · next some_digit =>
        simp only [Prod.mk.injEq, Option.some.injEq] at read
        obtain ⟨⟨rfl, rfl⟩, rfl⟩ := read
        exact ⟨by rw [List.takeWhile_append_dropWhile], isMark, some_digit,
          fun c member => List.mem_takeWhile_imp member, clear_dropWhile⟩
  · rintro ⟨rfl, isMark, some_digit, all, clear⟩
    obtain ⟨digit, others, rfl⟩ := List.exists_cons_of_ne_nil some_digit
    rw [List.cons_append, scanExponent,
      exponentLetter?_of_isMark isMark (all digit List.mem_cons_self)]
    simp only [← List.cons_append, takeWhile_append_clear all clear,
      dropWhile_append_clear all clear, some_digit, if_false]

theorem scanExponent_eq_none_iff :
    scanExponent text = (none, rest) ↔ rest = text ∧ ¬ Raises text := by
  constructor
  · intro read
    have unread : ¬ Raises text := by
      rintro ⟨mark, digit, after, rfl, isMark, isDigit⟩
      rw [scanExponent, exponentLetter?_of_isMark isMark isDigit] at read
      simp [isDigit] at read
    refine ⟨?_, unread⟩
    unfold scanExponent at read
    split at read
    · exact (Prod.mk.inj read).2.symm
    · dsimp only at read
      split at read
      · exact (Prod.mk.inj read).2.symm
      · cases read
  · rintro ⟨rfl, unread⟩
    unfold scanExponent
    split
    · rfl
    · next letter after front =>
      obtain ⟨rfl, isMark⟩ := isMark_of_exponentLetter? front
      cases after with
      | nil => simp
      | cons c others =>
        have notDigit : isDigit c = false :=
          Bool.eq_false_iff.mpr fun digit => unread ⟨letter, c, others, rfl, isMark, digit⟩
        simp [notDigit]

/-! ## Mantissas -/

theorem scanMantissa_eq_some_iff : scanMantissa text = some (whole, fraction, rest) ↔
    text = whole ++ (fraction.elim [] ('.' :: ·) ++ rest) ∧
      (whole ≠ [] ∨ ∃ digits ∈ fraction, digits ≠ []) ∧
      (∀ c ∈ whole, isDigit c = true) ∧ (∀ digits ∈ fraction, ∀ c ∈ digits, isDigit c = true) ∧
      Clear isDigit rest ∧ (fraction = none → Clear (· == '.') rest) := by
  constructor
  · intro read
    have parts := List.takeWhile_append_dropWhile (p := isDigit) (l := text)
    have all : ∀ c ∈ text.takeWhile isDigit, isDigit c = true :=
      fun c member => List.mem_takeWhile_imp member
    unfold scanMantissa at read
    split at read
    · next after point =>
      dsimp only at read
      split at read
      · cases read
      · next some_digit =>
        obtain ⟨rfl, rfl, rfl⟩ := by simpa using read
        refine ⟨?_, ?_, all, ?_, clear_dropWhile, nofun⟩
        · rw [point] at parts
          simpa [List.takeWhile_append_dropWhile] using parts.symm
        · simpa [-List.takeWhile_eq_nil_iff, imp_iff_not_or] using some_digit
        · rintro digits ⟨⟩ c member
          exact List.mem_takeWhile_imp member
    · next noPoint =>
      dsimp only at read
      split at read
      · cases read
      · next some_digit =>
        obtain ⟨rfl, rfl, rfl⟩ := by simpa using read
        refine ⟨by simp [parts], .inl some_digit, all, nofun, clear_dropWhile, fun _ c first => ?_⟩
        obtain ⟨others, same⟩ := List.head?_eq_some_iff.mp first
        exact beq_eq_false_iff_ne.mpr fun point => noPoint others (point ▸ same)
  · rintro ⟨rfl, some_digit, all, allFraction, clear, noPoint⟩
    cases fraction with
    | none =>
      have wholeDigits : whole ≠ [] := by simpa using some_digit
      rw [Option.elim_none, List.nil_append, scanMantissa, takeWhile_append_clear all clear,
        dropWhile_append_clear all clear]
      split
      · next after => exact absurd (noPoint rfl '.' rfl) (by decide)
      · simp [wholeDigits]
    | some digits =>
      have own : ∀ c ∈ digits, isDigit c = true := allFraction digits rfl
      have point : Clear isDigit ('.' :: (digits ++ rest)) := by
        rintro c ⟨⟩
        decide
      rw [Option.elim_some, List.cons_append, scanMantissa, takeWhile_append_clear all point,
        dropWhile_append_clear all point]
      simp only [takeWhile_append_clear own clear, dropWhile_append_clear own clear]
      rw [if_neg]
      rintro ⟨rfl, rfl⟩
      simp at some_digit

/-! ## Numerals -/

/-- The form of a numeral: digits before or after a point or without one, and an exponent of a
    mark and digits or none. -/
structure Formed (numeral : Numeral) : Prop where
  whole : ∀ c ∈ numeral.whole, isDigit c = true
  fraction : ∀ digits ∈ numeral.fraction, ∀ c ∈ digits, isDigit c = true
  some_digit : numeral.whole ≠ [] ∨ ∃ digits ∈ numeral.fraction, digits ≠ []
  exponent : ∀ part ∈ numeral.exponent,
    IsMark part.1 ∧ part.2 ≠ [] ∧ ∀ c ∈ part.2, isDigit c = true

/-- What follows a numeral does not continue it: neither a digit, nor an exponent where it has
    none, nor a point where it has neither. -/
structure Ends (numeral : Numeral) (rest : List Char) : Prop where
  digit : Clear isDigit rest
  exponent : numeral.exponent = none → ¬ Raises rest
  point : numeral.fraction = none → numeral.exponent = none → Clear (· == '.') rest

private theorem clear_of_isMark {kind : Char → Bool} (isMark : IsMark mark)
    (small : kind 'e' = false) (large : kind 'E' = false) : Clear kind (mark ++ rest) := by
  obtain ⟨letter, rfl | rfl, rfl | rfl | rfl⟩ := isMark <;> rintro c ⟨⟩ <;> assumption

/-- A numeral is read exactly where it is written and what follows does not continue it. -/
theorem scan_eq_some_iff : scan text = some (numeral, rest) ↔
    text = numeral.lexeme ++ rest ∧ numeral.Formed ∧ numeral.Ends rest := by
  obtain ⟨whole, fraction, exponent⟩ := numeral
  constructor
  · intro read
    unfold scan at read
    split at read
    · cases read
    · next whole fraction after found =>
      obtain ⟨rfl, some_digit, all, allFraction, clear, noPoint⟩ := scanMantissa_eq_some_iff.mp found
      simp only [Option.some.injEq, Prod.mk.injEq, Numeral.mk.injEq] at read
      obtain ⟨⟨rfl, rfl, rfl⟩, rfl⟩ := read
      cases raised : scanExponent after with
      | mk exponent left =>
        cases exponent with
        | none =>
          obtain ⟨rfl, unread⟩ := scanExponent_eq_none_iff.mp raised
          exact ⟨by simp [lexeme], ⟨all, allFraction, some_digit, by simp⟩,
            ⟨clear, fun _ => unread, fun none _ => noPoint none⟩⟩
        | some part =>
          obtain ⟨rfl, isMark, some_power, allPower, clear⟩ := scanExponent_eq_some_iff.mp raised
          refine ⟨by simp [lexeme], ⟨all, allFraction, some_digit, ?_⟩, ⟨clear, by simp, by simp⟩⟩
          rintro part ⟨⟩
          exact ⟨isMark, some_power, allPower⟩
  · rintro ⟨rfl, formed, ends⟩
    have all := formed.whole
    have allFraction := formed.fraction
    have some_digit := formed.some_digit
    cases exponent with
    | none =>
      have found : scanMantissa (lexeme ⟨whole, fraction, none⟩ ++ rest) =
          some (whole, fraction, rest) :=
        scanMantissa_eq_some_iff.mpr ⟨by simp [lexeme], some_digit, all, allFraction, ends.digit,
          fun without => ends.point without rfl⟩
      rw [scan, found]
      simp only [scanExponent_eq_none_iff.mpr ⟨rfl, ends.exponent rfl⟩]
    | some part =>
      obtain ⟨mark, digits⟩ := part
      obtain ⟨isMark, some_power, allPower⟩ := formed.exponent _ rfl
      have raised : scanExponent (mark ++ (digits ++ rest)) = (some (mark, digits), rest) :=
        scanExponent_eq_some_iff.mpr ⟨rfl, isMark, some_power, allPower, ends.digit⟩
      have found : scanMantissa (lexeme ⟨whole, fraction, some (mark, digits)⟩ ++ rest) =
          some (whole, fraction, mark ++ (digits ++ rest)) :=
        scanMantissa_eq_some_iff.mpr ⟨by simp [lexeme], some_digit, all, allFraction,
          clear_of_isMark isMark (by decide) (by decide),
          fun _ => clear_of_isMark isMark (by decide) (by decide)⟩
      rw [scan, found]
      simp only [raised]

/-! ### What may follow -/

theorem Raises.append (raises : Raises text) (more : List Char) : Raises (text ++ more) := by
  obtain ⟨mark, digit, rest, rfl, isMark, isDigit⟩ := raises
  exact ⟨mark, digit, rest ++ more, by simp, isMark, isDigit⟩

theorem isMark_subset (isMark : IsMark mark) : mark ⊆ ['e', 'E', '+', '-'] := by
  obtain ⟨letter, rfl | rfl, rfl | rfl | rfl⟩ := isMark <;> decide

/-- An exponent does not reach beyond a character that has no part in one. -/
theorem Raises.of_append (raises : Raises (rest ++ c :: more)) (notDigit : isDigit c = false)
    (notMark : c ∉ ['e', 'E', '+', '-']) : Raises rest := by
  obtain ⟨mark, digit, after, whole, isMark, digits⟩ := raises
  rcases List.append_eq_append_iff.mp whole with ⟨others, rfl, same⟩ | ⟨others, rfl, same⟩
  · cases others with
    | nil =>
      obtain ⟨rfl, -⟩ := List.cons.inj same
      simp [notDigit] at digits
    | cons other later =>
      obtain ⟨rfl, -⟩ := List.cons.inj same
      exact absurd (isMark_subset isMark (by simp)) notMark
  · cases others with
    | nil =>
      obtain ⟨rfl, -⟩ := List.cons.inj same
      simp [notDigit] at digits
    | cons other later =>
      obtain ⟨rfl, -⟩ := List.cons.inj same
      exact ⟨mark, digit, later, rfl, isMark, digits⟩

/-- Nothing follows a numeral at the end of a text. -/
theorem ends_nil : numeral.Ends [] where
  digit := nofun
  exponent := fun _ ⟨mark, digit, rest, whole, _⟩ => by simp at whole
  point := nofun

/-- A numeral alone is read as a whole. -/
theorem scan_lexeme (formed : numeral.Formed) : scan numeral.lexeme = some (numeral, []) :=
  scan_eq_some_iff.mpr ⟨(List.append_nil _).symm, formed, ends_nil⟩

theorem Ends.of_append (ends : numeral.Ends (rest ++ more)) : numeral.Ends rest where
  digit := ends.digit.of_append
  exponent := fun none raises => ends.exponent none (raises.append more)
  point := fun none without => (ends.point none without).of_append

theorem Ends.append (ends : numeral.Ends rest) (notDigit : isDigit c = false) (notPoint : c ≠ '.')
    (notMark : c ∉ ['e', 'E', '+', '-']) : numeral.Ends (rest ++ c :: more) where
  digit := ends.digit.append notDigit
  exponent := fun none raises => ends.exponent none (raises.of_append notDigit notMark)
  point := fun none without => (ends.point none without).append (beq_eq_false_iff_ne.mpr notPoint)

/-! ### White space -/

theorem not_isBlank_of_isDigit (digit : isDigit c = true) : isBlank c = false := by
  obtain ⟨value, found⟩ := Option.isSome_iff_exists.mp digit
  obtain ⟨first, member, within⟩ := List.exists_of_findSome?_eq_some found
  have apart : ∀ first ∈ Text.decimalZeros, ∀ range ∈ Text.blankRanges,
      first + 9 < range.1 ∨ range.2 < first := by decide
  refine Bool.eq_false_iff.mpr fun blank => ?_
  rw [isBlank, Text.inRanges, List.any_eq_true] at blank
  obtain ⟨range, among, inside⟩ := blank
  have := apart first member range among
  simp only [Bool.and_eq_true, decide_eq_true_eq] at inside
  split at within
  · omega
  · cases within

/-- No character of a numeral is white space. -/
theorem Formed.visible (formed : numeral.Formed)
    (member : c ∈ numeral.lexeme) : isBlank c = false := by
  simp only [lexeme, List.mem_append] at member
  rcases member with whole | fraction | exponent
  · exact not_isBlank_of_isDigit (formed.whole c whole)
  · cases found : numeral.fraction with
    | none => simp [found] at fraction
    | some digits =>
      rw [found, Option.elim_some, List.mem_cons] at fraction
      rcases fraction with rfl | digit
      · decide
      · exact not_isBlank_of_isDigit (formed.fraction digits found c digit)
  · cases found : numeral.exponent with
    | none => simp [found] at exponent
    | some part =>
      obtain ⟨isMark, -, digits⟩ := formed.exponent part found
      rw [found, Option.elim_some, List.mem_append] at exponent
      rcases exponent with mark | digit
      · have signs := isMark_subset isMark mark
        simp only [List.mem_cons, List.not_mem_nil, or_false] at signs
        rcases signs with rfl | rfl | rfl | rfl <;> decide
      · exact not_isBlank_of_isDigit (digits c digit)

end Numeral

end StepTrace
