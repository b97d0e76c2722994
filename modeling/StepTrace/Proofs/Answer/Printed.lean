import StepTrace.Proofs.Answer
import StepTrace.Proofs.Binary64.Shortest
import StepTrace.Proofs.Presentable

/-!
# Typing what was printed

The text of a number that can be shown is a signed numeral that means the number: an integer is
written with digits alone and a floating-point number never is. So the printed text of a number,
with white space around it or without, is an answer with that number as its value, and printing
the value of an answer and typing the text again changes nothing (`Answer.value_printed`).
-/

namespace StepTrace

/-- The text of a finite number is a signed numeral that means the number. -/
theorem SignedNumeral.exists_text [CharacterNames] {x : Binary64} (isFinite : x.isFinite = true) :
    ∃ signed : SignedNumeral,
      signed.lexeme = x.text ∧ signed.numeral.Formed ∧ signed.Means (.float x) := by
  obtain ⟨numeral, written, formed, broken, reads⟩ := Binary64.text_eq isFinite
  refine ⟨⟨if x.isNegative then some .minus else none, numeral⟩, ?_, formed, ?_⟩
  · rw [written, lexeme]
    cases x.isNegative <;> rfl
  · have negative : isNegative ⟨if x.isNegative then some .minus else none, numeral⟩ =
        x.isNegative := by
      rw [isNegative]
      cases x.isNegative <;> rfl
    rw [← number?_eq_some_iff, negative]
    simp [Answer.number?, broken, reads, isFinite]

/-- A number that can be shown is printed as a signed numeral that means it. -/
theorem SignedNumeral.exists_printed [CharacterNames] {number : Number}
    (presentable : Presentable number.toValue) :
    ∃ signed : SignedNumeral, number.toValue.printed? = some (.ofChars signed.lexeme) ∧
      signed.numeral.Formed ∧ signed.Means number := by
  cases number with
  | int n =>
    obtain ⟨shown, written⟩ := Option.isSome_iff_exists.mp (presentable_int_iff.mp presentable)
    obtain rfl := Text.eq_decimal_of_decimal? written
    cases presentable with
    | int short =>
      refine ⟨ofInt n, ?_, formed_ofInt n, means_ofInt short⟩
      rw [lexeme_ofInt, Number.toValue, Value.printed?]
      · rw [Value.inspected?, written, Option.map_some]
      · intro text same
        cases same
  | float x =>
    obtain ⟨signed, written, formed, means⟩ := exists_text (presentable_float_iff.mp presentable)
    refine ⟨signed, ?_, formed, means⟩
    rw [written, Number.toValue, Value.printed?]
    · rw [Value.inspected?, Option.map_some]
    · intro text same
      cases same

namespace Answer

/-- A signed numeral between white space is an answer with the number that it means. -/
theorem value_surrounded [CharacterNames] {signed : SignedNumeral} {number : Number}
    {before after : List Char} (formed : signed.numeral.Formed) (means : signed.Means number)
    (blankBefore : ∀ c ∈ before, Text.isBlank c = true)
    (blankAfter : ∀ c ∈ after, Text.isBlank c = true) :
    value (.ofChars before ++ .ofChars signed.lexeme ++ .ofChars after) = number.toValue := by
  have read := SignedNumeral.readNumber?_eq_some_iff.mpr
    ⟨signed, SignedNumeral.trim_surrounded formed blankBefore blankAfter, formed, means⟩
  rw [Text.ofChars_append, Text.ofChars_append, List.append_assoc]
  exact value_of_readNumber? read

/-- A number that can be shown is typed again by its printed text between white space. -/
theorem exists_shown {number : Number} (presentable : Presentable number.toValue)
    {before after : List Char} (blankBefore : ∀ c ∈ before, Text.isBlank c = true)
    (blankAfter : ∀ c ∈ after, Text.isBlank c = true) :
    ∃ shown, number.toValue.printed? = some shown ∧
      value (.ofChars before ++ shown ++ .ofChars after) = number.toValue := by
  -- There is no escape in a numeral, so it does not matter which names there are.
  let _ := CharacterNames.unnamed
  obtain ⟨signed, printed, formed, means⟩ := SignedNumeral.exists_printed presentable
  exact ⟨_, printed, value_surrounded formed means blankBefore blankAfter⟩

/-- The value of an answer is printed as a text that is an answer with the same value, and so is
    every number that can be shown, between any white space. -/
theorem value_printed :
    (∀ typed : Text, ∃ shown, (value typed).printed? = some shown ∧ value shown = value typed) ∧
      ∀ (number : Number) (before after : List Char), Presentable number.toValue →
        (∀ c ∈ before, Text.isBlank c = true) → (∀ c ∈ after, Text.isBlank c = true) →
          ∃ shown, number.toValue.printed? = some shown ∧
            value (.ofChars before ++ shown ++ .ofChars after) = number.toValue := by
  refine ⟨fun typed => ?_, fun number before after presentable => exists_shown presentable⟩
  by_cases isNumber : ∃ number : Number, value typed = number.toValue
  · obtain ⟨number, valued⟩ := isNumber
    have presentable := value_presentable typed
    rw [valued] at presentable ⊢
    have none : ∀ c ∈ ([] : List Char), Text.isBlank c = true := nofun
    obtain ⟨shown, printed, reads⟩ := exists_shown presentable none none
    rw [Text.ofChars_nil_append, Text.append_ofChars_nil] at reads
    exact ⟨shown, printed, reads⟩
  · have text := value_eq_text fun number valued => isNumber ⟨number, valued⟩
    exact ⟨typed, by rw [text, Value.printed?], rfl⟩

/-- A negative zero that is typed between white space stays one. -/
theorem value_negativeZero : Presentable (.float (.signedZero true)) ∧
    (∀ c ∈ "\t".toList, Text.isBlank c = true) ∧ (∀ c ∈ "\u3000".toList, Text.isBlank c = true) ∧
      value "\t-0.0\u3000" = .float (.signedZero true) := by
  have presentable : Presentable (Number.float (.signedZero true)).toValue := .float rfl
  have before : ∀ c ∈ "\t".toList, Text.isBlank c = true := List.all_eq_true.mp (by decide)
  have after : ∀ c ∈ "\u3000".toList, Text.isBlank c = true := List.all_eq_true.mp (by decide)
  obtain ⟨shown, printed, reads⟩ := value_printed.2 _ _ _ presentable before after
  obtain rfl : ("-0.0" : Text) = shown := Option.some.inj printed
  exact ⟨presentable, before, after, reads⟩

end Answer

end StepTrace
