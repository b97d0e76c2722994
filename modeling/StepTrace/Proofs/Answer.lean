import StepTrace.Proofs.SignedNumeral

/-!
# Numbers at a prompt and in the source

An answer is taken for a number exactly where it is a signed numeral that has a value in the
source, and then for that value. Every other answer is the text as it was typed, also where the
numeral is right but too long or too large (`Answer.value_agreesWithSource`).
-/

namespace StepTrace.Answer

variable {typed : Text} {chars : List Char} {number : Number}

/-- A text is one number of the source, directly behind a single sign or alone. -/
def IsSignedNumeral (text : List Char) : Prop :=
  ∃ signed : SignedNumeral, text = signed.lexeme ∧
    Symbol.scan signed.numeral.lexeme = some (.number signed.numeral, [])

/-- A text is a signed numeral between white space, and the source gives it a value. -/
def IsNumberInSource [CharacterNames] (typed : Text) : Prop :=
  ∃ chars, typed = .ofChars chars ∧ IsSignedNumeral (Text.trim chars) ∧
    ∃ source, Expr.evalText chars [] = .ok source

/-- A text that is typed at a prompt against the same text in the source. -/
structure AgreesWithSource [CharacterNames] (typed : Text) : Prop where
  /-- The answer is a number exactly if it is a signed numeral that the source gives a value. -/
  number_iff : (∃ number : Number, value typed = number.toValue) ↔ IsNumberInSource typed
  /-- The number is then the value in the source. -/
  same : ∀ (chars : List Char) (number : Number) (source : Value), typed = .ofChars chars →
    value typed = number.toValue → Expr.evalText chars [] = .ok source → source = number.toValue
  /-- In every other case the answer is the text as it was typed. -/
  text : ¬ IsNumberInSource typed → value typed = .str typed

/-- A numeral of the source is one that is formed. -/
private theorem scan_numeral_iff {numeral : Numeral} :
    Symbol.scan numeral.lexeme = some (.number numeral, []) ↔ numeral.Formed := by
  rw [Symbol.scan_eq_some_iff, Symbol.lexeme, List.append_nil]
  constructor
  · rintro ⟨-, formed, -⟩
    exact formed
  · intro formed
    exact ⟨rfl, formed, Symbol.ends_nil⟩

/-- An answer is read as a number where its characters are. -/
private theorem bind_readNumber?_eq_some : typed.chars?.bind readNumber? = some number ↔
    ∃ chars, typed = .ofChars chars ∧ readNumber? chars = some number := by
  simp only [Option.bind_eq_some_iff, Text.chars?_eq_some]

theorem value_of_readNumber? (read : readNumber? chars = some number) :
    value (.ofChars chars) = number.toValue := by
  rw [value, bind_readNumber?_eq_some.mpr ⟨chars, rfl, read⟩, Option.elim_some]

/-- The value is a number exactly if the text is read as one. -/
theorem value_eq_number_iff : value typed = number.toValue ↔
    ∃ chars, typed = .ofChars chars ∧ readNumber? chars = some number := by
  refine ⟨fun valued => ?_, ?_⟩
  · cases read : typed.chars?.bind readNumber? with
    | none =>
      rw [value, read, Option.elim_none] at valued
      cases number <;> cases valued
    | some found =>
      rw [value, read, Option.elim_some] at valued
      have same := Value.number?_eq_some.mpr valued
      rw [Value.number?_eq_some.mpr rfl] at same
      exact bind_readNumber?_eq_some.mp (read.trans same)
  · rintro ⟨chars, rfl, read⟩
    exact value_of_readNumber? read

/-- Where the text is not read as a number the value is the text. -/
theorem value_eq_text (other : ∀ number : Number, value typed ≠ number.toValue) :
    value typed = .str typed := by
  cases read : typed.chars?.bind readNumber? with
  | none => rw [value, read, Option.elim_none]
  | some number =>
    exact absurd (value_eq_number_iff.mpr (bind_readNumber?_eq_some.mp read)) (other number)

/-- An answer and the source agree on what is a number, and on which. -/
theorem value_agreesWithSource [CharacterNames] (typed : Text) : AgreesWithSource typed := by
  have number_iff : (∃ number : Number, value typed = number.toValue) ↔
      IsNumberInSource typed := by
    simp only [value_eq_number_iff, SignedNumeral.readNumber?_eq_some_iff]
    constructor
    · rintro ⟨number, chars, rfl, signed, trimmed, formed, means⟩
      exact ⟨chars, rfl, ⟨signed, trimmed, scan_numeral_iff.mpr formed⟩, number.toValue,
        (SignedNumeral.evalText_eq_ok_iff formed trimmed).mpr ⟨number, means, rfl⟩⟩
    · rintro ⟨chars, rfl, ⟨signed, trimmed, scanned⟩, source, valued⟩
      have formed := scan_numeral_iff.mp scanned
      obtain ⟨number, means, -⟩ := (SignedNumeral.evalText_eq_ok_iff formed trimmed).mp valued
      exact ⟨number, chars, rfl, signed, trimmed, formed, means⟩
  refine ⟨number_iff, ?_, fun other => ?_⟩
  · rintro chars number source rfl valued evaluated
    obtain ⟨_, same, read⟩ := value_eq_number_iff.mp valued
    obtain rfl := Text.ofChars_inj.mp same
    obtain ⟨signed, trimmed, formed, -⟩ := SignedNumeral.readNumber?_eq_some_iff.mp read
    obtain ⟨found, means, rfl⟩ := (SignedNumeral.evalText_eq_ok_iff formed trimmed).mp evaluated
    have read := SignedNumeral.readNumber?_eq_some_iff.mpr ⟨signed, trimmed, formed, means⟩
    exact (value_of_readNumber? read).symm.trans valued
  · exact value_eq_text fun number valued => other (number_iff.mp ⟨number, valued⟩)

end StepTrace.Answer
