import Mathlib.Tactic.Ring
import StepTrace.Answer
import StepTrace.Json.Printer

/-!
# Decimal digits

The digits that an integer is written in are read as that integer again, and an integer that
is read from so many digits is less than that power of ten. So the value of every answer can
be shown.
-/

namespace StepTrace

open Text (digitValue? natOfDigits isDigit)

namespace Text

/-! ## Digits of numbers -/

theorem digitValue?_le {c : Char} {value : Nat} (digit : digitValue? c = some value) : value ≤ 9 := by
  obtain ⟨first, -, found⟩ := List.exists_of_findSome?_eq_some digit
  split at found
  · obtain rfl := Option.some.inj found
    omega
  · cases found

/-- The digits of ASCII are the first ones of the table. -/
theorem digitValue?_of_isDigit {c : Char} (digit : c.isDigit = true) :
    digitValue? c = some (c.toNat - 48) := by
  have bounds : 48 ≤ c.toNat ∧ c.toNat ≤ 48 + 9 := Char.isDigit_iff_toNat.mp digit
  rw [digitValue?, decimalZeros, List.findSome?_cons, if_pos bounds]

theorem digitValue?_digitChar {d : Nat} (small : d < 10) : digitValue? d.digitChar = some d := by
  rw [digitValue?_of_isDigit (by simp [Nat.isDigit_digitChar, small]),
    Nat.toNat_digitChar_of_lt_ten small, Nat.add_sub_cancel_left]

theorem natOfDigits_concat (digits : List Char) (c : Char) :
    natOfDigits (digits ++ [c]) = 10 * natOfDigits digits + (digitValue? c).getD 0 := by
  simp [natOfDigits]

/-- Digits in front of others count for so many powers of ten. -/
theorem natOfDigits_append (first second : List Char) :
    natOfDigits (first ++ second) = natOfDigits first * 10 ^ second.length + natOfDigits second := by
  rcases List.eq_nil_or_concat second with rfl | ⟨front, c, rfl⟩
  · simp [natOfDigits]
  · rw [List.concat_eq_append, ← List.append_assoc, natOfDigits_concat, natOfDigits_concat,
      natOfDigits_append first front, List.length_append, List.length_singleton, Nat.pow_succ]
    ring
termination_by second.length

theorem natOfDigits_zeros (count : Nat) : natOfDigits (List.replicate count '0') = 0 := by
  induction count with
  | zero => rfl
  | succ count ih =>
    rw [List.replicate_succ', natOfDigits_concat, ih]
    rfl

/-- A number is less than the power of ten of its digits. -/
theorem natOfDigits_lt (digits : List Char) : natOfDigits digits < Nat.pow 10 digits.length := by
  rcases List.eq_nil_or_concat digits with rfl | ⟨front, c, rfl⟩
  · simp [natOfDigits]
  · have smaller := natOfDigits_lt front
    have last : (digitValue? c).getD 0 ≤ 9 := by
      cases value : digitValue? c with
      | none => simp
      | some value' => exact digitValue?_le value
    have more : Nat.pow 10 (front.length + 1) = Nat.pow 10 front.length * 10 := rfl
    rw [List.concat_eq_append, natOfDigits_concat, List.length_append, List.length_singleton, more]
    omega
termination_by digits.length

theorem natOfDigits_lt_of_length_le {digits : List Char} {limit : Nat}
    (short : digits.length ≤ limit) : natOfDigits digits < Nat.pow 10 limit :=
  Nat.lt_of_lt_of_le (natOfDigits_lt digits) (Nat.pow_le_pow_right (by decide) short)

/-- A number is read from its digits. -/
theorem natOfDigits_toDigits (n : Nat) : natOfDigits (Nat.toDigits 10 n) = n := by
  by_cases small : n < 10
  · rw [Nat.toDigits_of_lt_base small]
    simp [natOfDigits, digitValue?_digitChar small]
  · rw [Nat.toDigits_of_base_le (by decide) (Nat.not_lt.mp small), natOfDigits_concat,
      natOfDigits_toDigits (n / 10), digitValue?_digitChar (Nat.mod_lt n (by decide)),
      Option.getD_some, Nat.div_add_mod]

theorem isDigit_of_mem_toDigits {n : Nat} {c : Char} (member : c ∈ Nat.toDigits 10 n) :
    isDigit c = true := by
  have digit : c.isDigit = true := Nat.isDigit_of_mem_toDigits (by decide) (Nat.le_refl 10) member
  rw [isDigit, digitValue?_of_isDigit digit]
  rfl

private theorem length_toDigits_le {n limit : Nat} (positive : 0 < limit)
    (short : n < Nat.pow 10 limit) : (Nat.toDigits 10 n).length ≤ limit :=
  (Nat.length_toDigits_le_iff (by decide) positive).mpr short

/-- The text of an integer that has one is its digits. -/
theorem eq_decimal_of_decimal? {n : Int} {text : List Char} (shown : decimal? n = some text) :
    text = decimal n := by
  unfold decimal? at shown
  split at shown
  · exact (Option.some.inj shown).symm
  · cases shown

/-- A number up to one that has a text has no more digits than the limit. -/
theorem length_toDigits_of_decimal? {n : Int} {k : Nat} (shown : (decimal? n).isSome = true)
    (below : k ≤ n.natAbs) : (Nat.toDigits 10 k).length ≤ digitLimit := by
  unfold decimal? at shown
  split at shown
  · next short => exact length_toDigits_le (by decide) (Nat.lt_of_le_of_lt below short)
  · cases shown

/-- A number of no more digits than the limit has its digits as text. -/
theorem decimal?_natCast {n : Nat} (short : (Nat.toDigits 10 n).length ≤ digitLimit) :
    decimal? n = some (decimal n) := by
  have bound := natOfDigits_lt_of_length_le short
  rw [natOfDigits_toDigits] at bound
  rw [decimal?, Int.natAbs_natCast, if_pos bound]

/-- An integer of no more digits than the limit has a text. -/
theorem decimal?_signed {negative : Bool} {digits : List Char} (short : digits.length ≤ digitLimit) :
    (decimal? (signed negative (natOfDigits digits))).isSome = true := by
  have bound := natOfDigits_lt_of_length_le short
  have magnitude : (signed negative (natOfDigits digits)).natAbs = natOfDigits digits := by
    cases negative <;> simp [signed]
  rw [decimal?, magnitude, if_pos bound, Option.isSome_some]

end Text

/-! ## Answers -/

theorem Answer.readNumber?_eq_int {text : List Char} {n : Int}
    (read : readNumber? text = some (.int n)) :
    ∃ negative digits, digits.length ≤ Text.digitLimit ∧
      n = Text.signed negative (natOfDigits digits) := by
  unfold readNumber? number? at read
  dsimp only at read
  split at read
  · next numeral _ =>
    split at read
    · split at read
      · next short =>
        obtain rfl := Number.int.inj (Option.some.inj read)
        exact ⟨_, numeral.whole, short, rfl⟩
      · cases read
    · split at read <;> cases read
  · cases read

/-- The value of an answer can be shown. -/
theorem Answer.value_shown (typed : Text) :
    ∃ shown, Json.write? Json.inline (Answer.value typed) = some shown := by
  unfold Answer.value
  cases found : typed.chars?.bind readNumber? with
  | none => exact ⟨_, rfl⟩
  | some number =>
    cases number with
    | float x => exact ⟨_, rfl⟩
    | int n =>
      obtain ⟨chars, -, read⟩ := Option.bind_eq_some_iff.mp found
      obtain ⟨negative, digits, short, rfl⟩ := readNumber?_eq_int read
      obtain ⟨text, shown⟩ := Option.isSome_iff_exists.mp (Text.decimal?_signed short)
      exact ⟨.ofChars text, by rw [Option.elim_some, Number.toValue, Json.write?_int, shown]; rfl⟩

end StepTrace
