import StepTrace.Proofs.SignedNumeral
import StepTrace.Proofs.Token.Pattern

/-!
# The patterns of answers

An answer is matched as a whole, between its white space, against two patterns of its own: digits
with a sign or none, and then a number with a sign or none. Both are regular languages, and the
numerals of the source are the words of the second without the sign. An answer is an integer
exactly where it is a word of the first pattern with not too many digits, and a floating-point
number exactly where it is a word of the second one alone and finite
(`Answer.readNumber?_eq_int_iff`, `Answer.readNumber?_eq_float_iff`).
-/

namespace StepTrace

open Text (isDigit natOfDigits)

namespace Pattern

variable {word : List Char}

/-- A sign or none. -/
def sign : Language Char := 1 + (only '+' + only '-')

/-- The answers that are integers: digits, perhaps with a sign. -/
def signedDigits : Language Char := sign * digits

/-- The answers that are numbers: digits and perhaps a point, perhaps with a sign and an
    exponent. -/
def signedNumber : Language Char := sign * mantissa * (1 + mark * digits)

theorem mem_sign :
    word ∈ sign ↔ ∃ own : Option Sign, word = own.elim [] fun own => [own.symbol] := by
  simp only [sign, Language.mem_add, Language.mem_one, mem_only]
  constructor
  · rintro (rfl | rfl | rfl)
    · exact ⟨none, rfl⟩
    · exact ⟨some .plus, rfl⟩
    · exact ⟨some .minus, rfl⟩
  · rintro ⟨own, rfl⟩
    cases own with
    | none => exact .inl rfl
    | some own => cases own <;> simp [Sign.symbol]

/-- A number with a sign is a signed numeral. -/
theorem mem_signedNumber : word ∈ signedNumber ↔
    ∃ signed : SignedNumeral, signed.numeral.Formed ∧ signed.lexeme = word := by
  have apart : signedNumber = sign * number := mul_assoc ..
  rw [apart, Language.mem_mul]
  constructor
  · rintro ⟨_, isSign, _, isNumber, rfl⟩
    obtain ⟨own, rfl⟩ := mem_sign.mp isSign
    obtain ⟨numeral, formed, rfl⟩ := mem_number.mp isNumber
    exact ⟨⟨own, numeral⟩, formed, rfl⟩
  · rintro ⟨⟨own, numeral⟩, formed, rfl⟩
    exact ⟨_, mem_sign.mpr ⟨own, rfl⟩, _, mem_number.mpr ⟨numeral, formed, rfl⟩, rfl⟩

/-- Digits with a sign are a signed numeral that is an integer. -/
theorem mem_signedDigits : word ∈ signedDigits ↔
    ∃ signed : SignedNumeral, signed.numeral.Formed ∧ signed.numeral.isInteger = true ∧
      signed.lexeme = word := by
  rw [signedDigits, Language.mem_mul]
  constructor
  · rintro ⟨_, isSign, whole, isWhole, rfl⟩
    obtain ⟨own, rfl⟩ := mem_sign.mp isSign
    obtain ⟨nonempty, all⟩ := mem_digits.mp isWhole
    refine ⟨⟨own, whole, none, none⟩, ⟨all, nofun, .inl nonempty, nofun⟩, rfl, ?_⟩
    simp [SignedNumeral.lexeme, Numeral.lexeme]
  · rintro ⟨⟨own, whole, fraction, exponent⟩, formed, integer, rfl⟩
    obtain ⟨rfl, rfl⟩ : fraction = none ∧ exponent = none := by
      simpa [Numeral.isInteger] using integer
    have nonempty : whole ≠ [] := by simpa using formed.some_digit
    exact ⟨_, mem_sign.mpr ⟨own, rfl⟩, whole, mem_digits.mpr ⟨nonempty, formed.whole⟩,
      by simp [SignedNumeral.lexeme, Numeral.lexeme]⟩

end Pattern

/-- A signed numeral is told by its characters. -/
theorem SignedNumeral.numeral_eq_of_lexeme {one other : SignedNumeral}
    (formedOne : one.numeral.Formed) (formedOther : other.numeral.Formed)
    (same : one.lexeme = other.lexeme) : one.numeral = other.numeral := by
  have splitOne := splitSign_lexeme formedOne
  have splitOther := splitSign_lexeme formedOther
  rw [same, splitOther] at splitOne
  have read := Numeral.scan_lexeme formedOne
  rw [← (Prod.mk.inj splitOne).2, Numeral.scan_lexeme formedOther] at read
  exact (Prod.mk.inj (Option.some.inj read)).1.symm

namespace Answer

variable {text : List Char}

/-- An answer that is no integer by its pattern is none by its numeral. -/
private theorem not_mem_signedDigits {signed : SignedNumeral} (formed : signed.numeral.Formed) :
    signed.lexeme ∉ Pattern.signedDigits ↔ signed.numeral.isInteger = false := by
  rw [← Bool.not_eq_true, Pattern.mem_signedDigits, not_iff_not]
  constructor
  · rintro ⟨other, formedOther, integer, same⟩
    rwa [← SignedNumeral.numeral_eq_of_lexeme formedOther formed same]
  · exact fun integer => ⟨signed, formed, integer, rfl⟩

private theorem number?_eq_int_iff {negative : Bool} {numeral : Numeral} {n : Int} :
    number? negative numeral = some (.int n) ↔ numeral.isInteger = true ∧
      numeral.whole.length ≤ Text.digitLimit ∧
        n = Text.signed negative (natOfDigits numeral.whole) := by
  by_cases integer : numeral.isInteger = true
  · by_cases short : numeral.whole.length ≤ Text.digitLimit
    · simp only [number?, integer, short, if_true, Option.some.injEq, Number.int.injEq, true_and]
      exact eq_comm
    · simp [number?, integer, short]
  · by_cases finite : (numeral.toBinary64 negative).isFinite = true <;>
      simp [number?, integer, finite]

private theorem number?_eq_float_iff {negative : Bool} {numeral : Numeral} {x : Binary64} :
    number? negative numeral = some (.float x) ↔ numeral.isInteger = false ∧
      numeral.toBinary64 negative = x ∧ x.isFinite = true := by
  by_cases integer : numeral.isInteger = true
  · by_cases short : numeral.whole.length ≤ Text.digitLimit <;> simp [number?, integer, short]
  · by_cases finite : (numeral.toBinary64 negative).isFinite = true
    · simp only [number?, integer, finite, if_true, Bool.false_eq_true, if_false,
        Option.some.injEq, Number.float.injEq, true_and]
      exact ⟨fun same => ⟨same, same ▸ finite⟩, And.left⟩
    · simp only [number?, integer, finite, Bool.false_eq_true, if_false, true_and]
      exact iff_of_false nofun fun ⟨same, isFinite⟩ => finite (same ▸ isFinite)

/-- An answer is an integer exactly if it is digits, perhaps with a sign, that are not too many. -/
theorem readNumber?_eq_int_iff {n : Int} : readNumber? text = some (.int n) ↔
    Text.trim text ∈ Pattern.signedDigits ∧
      ∃ signed : SignedNumeral, Text.trim text = signed.lexeme ∧ signed.numeral.Formed ∧
        signed.numeral.whole.length ≤ Text.digitLimit ∧
        n = Text.signed signed.isNegative (natOfDigits signed.numeral.whole) := by
  simp only [SignedNumeral.readNumber?_eq_number?_iff, number?_eq_int_iff]
  constructor
  · rintro ⟨signed, trimmed, formed, integer, short, value⟩
    refine ⟨?_, signed, trimmed, formed, short, value⟩
    rw [trimmed]
    exact Pattern.mem_signedDigits.mpr ⟨signed, formed, integer, rfl⟩
  · rintro ⟨matched, signed, trimmed, formed, short, value⟩
    rw [trimmed] at matched
    have integer := mt (not_mem_signedDigits formed).mpr (not_not_intro matched)
    exact ⟨signed, trimmed, formed, by simpa using integer, short, value⟩

/-- An answer is a floating-point number exactly if it is a number, perhaps with a sign, but no
    integer, and the number nearest to it is finite. -/
theorem readNumber?_eq_float_iff {x : Binary64} : readNumber? text = some (.float x) ↔
    Text.trim text ∈ Pattern.signedNumber ∧ Text.trim text ∉ Pattern.signedDigits ∧
      ∃ signed : SignedNumeral, Text.trim text = signed.lexeme ∧ signed.numeral.Formed ∧
        signed.numeral.toBinary64 signed.isNegative = x ∧ x.isFinite = true := by
  simp only [SignedNumeral.readNumber?_eq_number?_iff, number?_eq_float_iff]
  constructor
  · rintro ⟨signed, trimmed, formed, broken, value, finite⟩
    rw [trimmed]
    exact ⟨Pattern.mem_signedNumber.mpr ⟨signed, formed, rfl⟩,
      (not_mem_signedDigits formed).mpr broken, signed, rfl, formed, value, finite⟩
  · rintro ⟨-, unmatched, signed, trimmed, formed, value, finite⟩
    rw [trimmed] at unmatched
    exact ⟨signed, trimmed, formed, (not_mem_signedDigits formed).mp unmatched, value, finite⟩

end Answer

end StepTrace
