import StepTrace.Binary64.Shortest
import StepTrace.Proofs.Binary64.Rounding
import StepTrace.Proofs.Numeral
import StepTrace.Proofs.Token.Numeral

/-!
# The text of a floating-point number

The text of a finite number is a numeral that reads as the number again, after the sign that it
has (`text_eq`). The numeral is never one of an integer. It has the digits of the shortest
decimal, which reads as the number, without the zeros at their end and with those that its
layout asks for.
-/

namespace StepTrace

open Text (isDigit natOfDigits)

variable {digits : List Char} {exponent : Int} {numeral : Numeral} {x : Binary64}

/-! ## Layouts -/

/-- A numeral has some digits, zeros at the end apart, the first of them at a power of ten. It
    is not that of an integer. -/
structure Numeral.LaysOut (digits : List Char) (exponent : Int) (numeral : Numeral) : Prop where
  formed : numeral.Formed
  broken : numeral.isInteger = false
  digits : ∃ zeros : Nat,
    natOfDigits (numeral.whole ++ numeral.fraction.getD []) = natOfDigits digits * 10 ^ zeros ∧
      numeral.power - (numeral.fraction.getD []).length + zeros = exponent + 1 - digits.length

/-- Such a numeral stands for its digits at their power of ten. -/
theorem Numeral.LaysOut.toBinary64 (laysOut : numeral.LaysOut digits exponent) (negative : Bool) :
    numeral.toBinary64 negative =
      Binary64.ofDecimal negative (natOfDigits digits) (exponent + 1 - digits.length) := by
  obtain ⟨zeros, value, place⟩ := laysOut.digits
  rw [Numeral.toBinary64, value, Binary64.ofDecimal_mul_pow, place]

namespace Binary64

private theorem isDigit_zero : isDigit '0' = true := by decide

private theorem isDigit_append_zeros (all : ∀ c ∈ digits, isDigit c = true) (count : Nat) :
    ∀ c ∈ digits ++ List.replicate count '0', isDigit c = true := by
  refine List.forall_mem_append.mpr ⟨all, fun c member => ?_⟩
  rw [List.eq_of_mem_replicate member]
  exact isDigit_zero

/-- The exponent of a numeral that is written with one. -/
private theorem exponentText_eq (exponent : Int) : ∃ mark power,
    exponentText exponent = mark ++ power ∧ Numeral.IsMark mark ∧ power ≠ [] ∧
      (∀ c ∈ power, isDigit c = true) ∧
      (if '-' ∈ mark then -(natOfDigits power : Int) else natOfDigits power) = exponent := by
  have filled : ∀ n, natOfDigits ((Nat.toDigits 10 n).leftpad 2 '0') = n := by
    intro n
    rw [List.leftpad, Text.natOfDigits_append, Text.natOfDigits_zeros, Nat.zero_mul, Nat.zero_add,
      Text.natOfDigits_toDigits]
  refine ⟨['e', if exponent < 0 then '-' else '+'], (Nat.toDigits 10 exponent.natAbs).leftpad 2 '0',
    rfl, ⟨'e', .inl rfl, ?_⟩, ?_, ?_, ?_⟩
  · split
    · exact .inr (.inr rfl)
    · exact .inr (.inl rfl)
  · simp [List.leftpad, Nat.toDigits_ne_nil]
  · rw [List.leftpad]
    refine List.forall_mem_append.mpr ⟨fun c member => ?_, fun c => Text.isDigit_of_mem_toDigits⟩
    rw [List.eq_of_mem_replicate member]
    exact isDigit_zero
  · rw [filled]
    by_cases negative : exponent < 0
    · rw [if_pos negative, if_pos (by decide)]
      omega
    · rw [if_neg negative, if_neg (by decide)]
      omega

/-- Digits with a point after so many of them. -/
private theorem laysOut_positional (nonempty : digits ≠ []) (all : ∀ c ∈ digits, isDigit c = true)
    (below : Nat) {part : Option (List Char × List Char)}
    (power : ∀ mark ∈ part, Numeral.IsMark mark.1 ∧ mark.2 ≠ [] ∧ ∀ c ∈ mark.2, isDigit c = true)
    (raised : Numeral.power ⟨[], none, part⟩ + below = exponent) :
    ∃ numeral : Numeral, numeral.lexeme = positional digits (below + 1) ++
        part.elim [] (fun (letter, digits) => letter ++ digits) ∧
      numeral.LaysOut digits exponent := by
  have filled := isDigit_append_zeros all (below + 2 - digits.length)
  have length := List.length_pos_iff.mpr nonempty
  refine ⟨⟨(digits.rightpad (below + 2) '0').take (below + 1),
    some ((digits.rightpad (below + 2) '0').drop (below + 1)), part⟩, ?_, ?_, ?_, ?_⟩
  · rw [positional, Numeral.lexeme]
    dsimp only
    rw [Option.elim_some, List.append_assoc, List.cons_append]
  · refine ⟨fun c member => filled c (List.mem_of_mem_take member), ?_, .inl ?_, power⟩
    · rintro _ ⟨⟩ c member
      exact filled c (List.mem_of_mem_drop member)
    · rw [List.rightpad, Ne, List.take_eq_nil_iff, not_or]
      exact ⟨by omega, by simp [nonempty]⟩
  · rfl
  · refine ⟨below + 2 - digits.length, ?_, ?_⟩
    · rw [Option.getD_some, List.take_append_drop, List.rightpad, Text.natOfDigits_append,
        Text.natOfDigits_zeros, List.length_replicate, Nat.add_zero]
    · rw [Option.getD_some, List.rightpad, List.length_drop, List.length_append,
        List.length_replicate]
      simp only [Numeral.power] at raised ⊢
      omega

/-- Digits are laid out as a numeral that has them. -/
theorem exists_laysOut (nonempty : digits ≠ []) (all : ∀ c ∈ digits, isDigit c = true)
    (exponent : Int) : ∃ numeral : Numeral, numeral.lexeme = layout digits exponent ∧
      numeral.LaysOut digits exponent := by
  unfold layout
  split
  · obtain ⟨mark, power, same, isMark, some_power, allPower, raised⟩ := exponentText_eq exponent
    have part : ∀ part ∈ some (mark, power),
        Numeral.IsMark part.1 ∧ part.2 ≠ [] ∧ ∀ c ∈ part.2, isDigit c = true := by
      rintro _ ⟨⟩
      exact ⟨isMark, some_power, allPower⟩
    rw [same]
    split
    · next digit =>
      have whole : ∀ own ∈ (none : Option (List Char)), ∀ c ∈ own, isDigit c = true := by
        rintro _ ⟨⟩
      refine ⟨⟨[digit], none, some (mark, power)⟩, rfl,
        ⟨all, whole, .inl (List.cons_ne_nil digit []), part⟩, rfl, 0, by simp, ?_⟩
      simp only [Numeral.power, Option.elim_some, raised]
      simp
    · have placed : Numeral.power ⟨[], none, some (mark, power)⟩ + (0 : Nat) = exponent := by
        simp [Numeral.power, raised]
      exact laysOut_positional nonempty all 0 part placed
  · have unraised : ∀ part ∈ (none : Option (List Char × List Char)),
        Numeral.IsMark part.1 ∧ part.2 ≠ [] ∧ ∀ c ∈ part.2, isDigit c = true := by
      rintro _ ⟨⟩
    split
    · next negative =>
      have filled : ∀ c ∈ List.replicate (-exponent - 1).toNat '0' ++ digits, isDigit c = true := by
        refine List.forall_mem_append.mpr ⟨fun c member => ?_, all⟩
        rw [List.eq_of_mem_replicate member]
        exact isDigit_zero
      refine ⟨⟨['0'], some (List.replicate (-exponent - 1).toNat '0' ++ digits), none⟩, ?_,
        ⟨?_, ?_, .inl (List.cons_ne_nil '0' []), unraised⟩, rfl, 0, ?_, ?_⟩
      · simp [Numeral.lexeme]
      · exact List.forall_mem_singleton.mpr isDigit_zero
      · rintro _ ⟨⟩
        exact filled
      · have zeros : '0' :: List.replicate (-exponent - 1).toNat '0' =
            List.replicate ((-exponent - 1).toNat + 1) '0' := List.replicate_succ.symm
        rw [Option.getD_some, List.singleton_append, ← List.cons_append, zeros,
          Text.natOfDigits_append, Text.natOfDigits_zeros]
        simp
      · simp only [Numeral.power, Option.elim_none, Option.getD_some, List.length_append,
          List.length_replicate]
        omega
    · next small =>
      have placed : Numeral.power ⟨[], none, none⟩ + (exponent.toNat : Nat) = exponent := by
        simp only [Numeral.power, Option.elim_none]
        omega
      obtain ⟨numeral, same, laysOut⟩ :=
        laysOut_positional nonempty all exponent.toNat unraised placed
      exact ⟨numeral, by simpa using same, laysOut⟩

/-! ## The shortest decimal -/

/-- The shortest decimal of a finite number reads as the number. -/
theorem readsAs_shortest (isFinite : x.isFinite = true) : ReadsAs x (shortest x) := by
  unfold shortest
  dsimp only
  cases found : (List.range 17).findSome? fun (below : Nat) =>
      (gridNeighbours x.units (leadingExponent x.units - below)).find? fun decimal =>
        ReadsAs x decimal with
  | some decimal =>
    obtain ⟨below, -, inGrid⟩ := List.exists_of_findSome?_eq_some found
    rw [Option.getD_some]
    simpa using List.find?_some inGrid
  | none =>
    -- The exact value is left, which is no rounding at all.
    rw [Option.getD_none, ReadsAs, ofDecimal_units, ofRatio_units isFinite]

/-- Digits without the zeros at their end. -/
private theorem exists_zeros (digits : List Char) : ∃ zeros,
    digits = (digits.reverse.dropWhile (· == '0')).reverse ++ List.replicate zeros '0' := by
  have parts := List.takeWhile_append_dropWhile (p := (· == '0')) (l := digits.reverse)
  refine ⟨(digits.reverse.takeWhile (· == '0')).length, ?_⟩
  have zeros : (digits.reverse.takeWhile (· == '0')).reverse =
      List.replicate (digits.reverse.takeWhile (· == '0')).length '0' := by
    refine List.eq_replicate_iff.mpr ⟨List.length_reverse, fun c member => ?_⟩
    simpa using List.mem_takeWhile_imp (List.mem_reverse.mp member)
  rw [← zeros, ← List.reverse_append, parts, List.reverse_reverse]

private theorem eq_signedZero (isFinite : x.isFinite = true) (zero : x.units = 0) :
    x = signedZero x.isNegative := by
  have same := ofRatio_units isFinite
  rw [zero, ofRatio_of_small (by decide)] at same
  exact same.symm

/-- The magnitude of a finite number is written as a numeral that reads as the number. -/
theorem exists_magnitude (isFinite : x.isFinite = true) : ∃ numeral : Numeral,
    numeral.lexeme = magnitudeText x ∧ numeral.Formed ∧ numeral.isInteger = false ∧
      numeral.toBinary64 x.isNegative = x := by
  rw [magnitudeText]
  by_cases zero : x.units = 0
  · rw [if_pos zero]
    obtain ⟨numeral, same, laysOut⟩ :=
      exists_laysOut (List.cons_ne_nil '0' []) (List.forall_mem_singleton.mpr isDigit_zero) 0
    refine ⟨numeral, same, laysOut.formed, laysOut.broken, ?_⟩
    rw [laysOut.toBinary64, show natOfDigits ['0'] = 0 from rfl, ofDecimal_zero]
    exact (eq_signedZero isFinite zero).symm
  · rw [if_neg zero]
    have reads := readsAs_shortest isFinite
    rw [ReadsAs] at reads
    -- That the decimal reads as the number is all that is needed of it from here on.
    generalize shortest x = decimal at reads ⊢
    obtain ⟨coefficient, place⟩ := decimal
    obtain ⟨zeros, split⟩ := exists_zeros (Nat.toDigits 10 coefficient)
    have all : ∀ c ∈ Nat.toDigits 10 coefficient, isDigit c = true := fun c =>
      Text.isDigit_of_mem_toDigits
    have value := Text.natOfDigits_toDigits coefficient
    dsimp only at reads ⊢
    generalize Nat.toDigits 10 coefficient = digits at split all value ⊢
    generalize (digits.reverse.dropWhile (· == '0')).reverse = significant at split ⊢
    subst split
    rw [Text.natOfDigits_append, Text.natOfDigits_zeros, List.length_replicate, Nat.add_zero] at value
    rw [← value, ofDecimal_mul_pow] at reads
    have nonempty : significant ≠ [] := by
      rintro rfl
      rw [show natOfDigits [] = 0 from rfl, ofDecimal_zero] at reads
      rw [← reads] at zero
      exact zero rfl
    obtain ⟨numeral, same, laysOut⟩ := exists_laysOut nonempty
      (fun c member => all c (List.mem_append_left _ member))
      (place + (significant ++ List.replicate zeros '0').length - 1)
    refine ⟨numeral, same, laysOut.formed, laysOut.broken, ?_⟩
    have exponent : place + (significant ++ List.replicate zeros '0').length - 1 + 1 -
        significant.length = place + zeros := by
      rw [List.length_append, List.length_replicate]
      omega
    rw [laysOut.toBinary64, exponent, reads]

/-- The text of a finite number is its sign and a numeral that reads as the number. -/
theorem text_eq (isFinite : x.isFinite = true) : ∃ numeral : Numeral,
    x.text = (if x.isNegative then ['-'] else []) ++ numeral.lexeme ∧ numeral.Formed ∧
      numeral.isInteger = false ∧ numeral.toBinary64 x.isNegative = x := by
  obtain ⟨numeral, same, formed, broken, reads⟩ := exists_magnitude isFinite
  refine ⟨numeral, ?_, formed, broken, reads⟩
  rw [same]
  cases x with
  | nan | infinite => cases isFinite
  | finite => rfl

end Binary64

end StepTrace
