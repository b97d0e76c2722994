import Mathlib.Tactic.Ring
import StepTrace.Binary64.Decimal

/-!
# Rounding

A ratio is rounded by its value alone: multiplying both of its terms changes nothing
(`ofRatio_congr`). A finite number is its own rounding (`ofRatio_units`), a ratio of less than
half a unit rounds to zero and one beyond the greatest exponent to infinity. So a decimal is
rounded as the ratio that it is, where reading computes its power of ten and where it does not
(`ofDecimal_eq_ofRatio`), and zeros at the end of its coefficient only shift its exponent
(`ofDecimal_mul_pow`).
-/

namespace StepTrace.Binary64

variable {num den other otherDen factor units : Nat} {negative : Bool} {x : Binary64}

/-! ## The value of a ratio -/

theorem roundHalfEven_scale (positive : 0 < factor) :
    roundHalfEven (num * factor) (den * factor) = roundHalfEven num den := by
  have twice : 2 * (num % den * factor) = 2 * (num % den) * factor := by ring
  simp only [roundHalfEven, Nat.mul_div_mul_right _ _ positive, Nat.mul_mod_mul_right, twice,
    Nat.mul_lt_mul_right positive]

theorem nearestUnits_scale (positive : 0 < factor) :
    nearestUnits (num * factor) (den * factor) = nearestUnits num den := by
  have shifted : ∀ spare, (den * factor) <<< spare = den <<< spare * factor := by
    intro spare
    rw [Nat.shiftLeft_eq, Nat.shiftLeft_eq]
    ring
  simp only [nearestUnits, Nat.mul_div_mul_right _ _ positive, shifted,
    roundHalfEven_scale positive]

/-- Equal ratios are rounded alike. -/
theorem ofRatio_congr (positive : 0 < den) (otherPositive : 0 < otherDen)
    (same : num * otherDen = other * den) :
    ofRatio negative num den = ofRatio negative other otherDen := by
  have first : nearestUnits (num * otherDen) (den * otherDen) = nearestUnits num den :=
    nearestUnits_scale otherPositive
  have second : nearestUnits (other * den) (otherDen * den) = nearestUnits other otherDen :=
    nearestUnits_scale positive
  rw [ofRatio, ofRatio, ← first, ← second, same, Nat.mul_comm den]

/-! ## Numbers that are kept -/

/-- A significand of 53 bits at most, shifted: only where it has all of them may it be shifted. -/
theorem spareBits_shifted {significand spare : Nat} (small : significand < 2 ^ 53)
    (large : spare = 0 ∨ 2 ^ 52 ≤ significand) : spareBits (significand <<< spare) = spare := by
  rw [spareBits, Nat.shiftLeft_eq]
  rcases large with rfl | large
  · rw [Nat.pow_zero, Nat.mul_one, Nat.sub_eq_zero_iff_le]
    by_cases zero : significand = 0
    · simp [zero]
    · exact Nat.le_of_lt_succ ((Nat.log2_lt zero).mpr small)
  · have positive : significand * 2 ^ spare ≠ 0 :=
      Nat.ne_of_gt (Nat.mul_pos (by omega) (Nat.two_pow_pos spare))
    have lower : 2 ^ (52 + spare) ≤ significand * 2 ^ spare := by
      rw [Nat.pow_add]
      exact Nat.mul_le_mul_right _ large
    have upper : significand * 2 ^ spare < 2 ^ (52 + spare + 1) := by
      rw [Nat.add_right_comm, Nat.pow_add]
      exact Nat.mul_lt_mul_of_pos_right small (Nat.two_pow_pos spare)
    rw [(Nat.log2_eq_iff positive).mpr ⟨lower, upper⟩, Nat.add_sub_cancel_left]

/-- Such a number of units is kept as it is. -/
theorem nearestUnits_shifted {significand spare : Nat} (small : significand < 2 ^ 53)
    (large : spare = 0 ∨ 2 ^ 52 ≤ significand) :
    nearestUnits (significand <<< spare) 1 = significand <<< spare := by
  have whole : significand <<< spare / 1 <<< spare = significand := by
    rw [Nat.shiftLeft_eq, Nat.one_shiftLeft, Nat.mul_div_cancel _ (Nat.two_pow_pos spare)]
  have nothing : significand <<< spare % 1 <<< spare = 0 := by
    rw [Nat.shiftLeft_eq, Nat.one_shiftLeft, Nat.mul_mod_left]
  have positive : 2 * 0 < 1 <<< spare := by
    rw [Nat.one_shiftLeft]
    exact Nat.two_pow_pos spare
  rw [nearestUnits, Nat.div_one, spareBits_shifted small large]
  simp only [roundHalfEven, whole, nothing, if_pos positive]

private theorem isFinite_cases (isFinite : x.isFinite = true) :
    ∃ negative exponent fraction, x = finite negative exponent fraction := by
  cases x with
  | nan | infinite => cases isFinite
  | finite negative exponent fraction => exact ⟨negative, exponent, fraction, rfl⟩

private theorem fractionCount_eq : fractionCount = 2 ^ 52 := rfl

/-- The magnitude of a finite number as a significand and a shift. -/
private theorem units_eq_shifted (negative : Bool) (exponent : Fin 2047)
    (fraction : Fin fractionCount) : ∃ significand,
      (finite negative exponent fraction).units = significand <<< (exponent.val - 1) ∧
        significand < 2 ^ 53 ∧ (exponent.val - 1 = 0 ∨ 2 ^ 52 ≤ significand) := by
  have small : fraction.val < 2 ^ 52 := fraction.isLt
  have count := fractionCount_eq
  by_cases subnormal : exponent.val = 0
  · refine ⟨fraction.val, ?_, by omega, .inl (by omega)⟩
    rw [units, if_pos subnormal, subnormal]
    rfl
  · refine ⟨fractionCount + fraction.val, ?_, by omega, .inr (by omega)⟩
    rw [units, if_neg subnormal]

/-- A finite number is the one of its magnitude and sign. -/
theorem ofUnits_units (isFinite : x.isFinite = true) : ofUnits x.isNegative x.units = x := by
  obtain ⟨negative, exponent, fraction, rfl⟩ := isFinite_cases isFinite
  have small : fraction.val < 2 ^ 52 := fraction.isLt
  have count := fractionCount_eq
  rw [isNegative]
  by_cases subnormal : exponent.val = 0
  · have magnitude : (finite negative exponent fraction).units = fraction.val := by
      rw [units, if_pos subnormal]
    rw [magnitude, ofUnits, if_pos fraction.isLt]
    have place : (0 : Fin 2047) = exponent := Fin.ext subnormal.symm
    have same : Fin.ofNat fractionCount fraction.val = fraction :=
      Fin.ext (Nat.mod_eq_of_lt fraction.isLt)
    rw [place, same]
  · have magnitude : (finite negative exponent fraction).units =
        (fractionCount + fraction.val) <<< (exponent.val - 1) := by rw [units, if_neg subnormal]
    have spare : spareBits ((fractionCount + fraction.val) <<< (exponent.val - 1)) =
        exponent.val - 1 :=
      spareBits_shifted (by omega) (.inr (by omega))
    have normal : ¬ (fractionCount + fraction.val) <<< (exponent.val - 1) < fractionCount := by
      rw [Nat.shiftLeft_eq, Nat.not_lt]
      exact Nat.le_trans (Nat.le_add_right ..) (Nat.le_mul_of_pos_right _ (Nat.two_pow_pos _))
    have place : exponent.val - 1 + 1 = exponent.val := by omega
    rw [magnitude, ofUnits, if_neg normal]
    simp only [spare, place, exponent.isLt, dite_true]
    have same : Fin.ofNat fractionCount
        ((fractionCount + fraction.val) <<< (exponent.val - 1) >>> (exponent.val - 1)) = fraction := by
      refine Fin.ext ?_
      rw [Nat.shiftLeft_shiftRight]
      exact (Nat.add_mod_left ..).trans (Nat.mod_eq_of_lt fraction.isLt)
    rw [same]

/-- A finite number is its own rounding. -/
theorem ofRatio_units (isFinite : x.isFinite = true) : ofRatio x.isNegative x.units 1 = x := by
  obtain ⟨negative, exponent, fraction, rfl⟩ := isFinite_cases isFinite
  obtain ⟨significand, magnitude, small, large⟩ := units_eq_shifted negative exponent fraction
  rw [ofRatio, magnitude, nearestUnits_shifted small large, ← magnitude]
  exact ofUnits_units rfl

/-! ## Numbers that are too small or too large -/

/-- Less than half a unit is nothing. -/
theorem ofRatio_of_small (small : 2 * num < den) : ofRatio negative num den = signedZero negative := by
  have below : num < den := by omega
  have spare : spareBits 0 = 0 := by decide
  have nothing : nearestUnits num den = 0 := by
    rw [nearestUnits, Nat.div_eq_of_lt below, spare, Nat.shiftLeft_zero, Nat.shiftLeft_zero,
      roundHalfEven, Nat.mod_eq_of_lt below, Nat.div_eq_of_lt below]
    exact if_pos small
  rw [ofRatio, nothing]
  rfl

private theorem div_le_roundHalfEven : num / den ≤ roundHalfEven num den := by
  simp only [roundHalfEven]
  split
  · exact Nat.le_refl _
  · split <;> omega

/-- A number of units keeps its leading bit. -/
theorem two_pow_le_nearestUnits {size : Nat} (keeps : 52 ≤ size) (large : 2 ^ size ≤ num) :
    2 ^ size ≤ nearestUnits num 1 := by
  have positive : num ≠ 0 := Nat.ne_of_gt (Nat.lt_of_lt_of_le (Nat.two_pow_pos size) large)
  have size_le : size ≤ num.log2 := (Nat.le_log2 positive).mpr large
  have leading := Nat.log2_self_le positive
  have split : num.log2 = 52 + (num.log2 - 52) := by omega
  rw [nearestUnits, Nat.div_one, spareBits, Nat.one_shiftLeft, Nat.shiftLeft_eq]
  have quotient : 2 ^ 52 ≤ num / 2 ^ (num.log2 - 52) := by
    rw [Nat.le_div_iff_mul_le (Nat.two_pow_pos _), ← Nat.pow_add, ← split]
    exact leading
  calc 2 ^ size ≤ 2 ^ num.log2 := Nat.pow_le_pow_right (by decide) size_le
    _ = 2 ^ 52 * 2 ^ (num.log2 - 52) := by rw [← Nat.pow_add, ← split]
    _ ≤ roundHalfEven num (2 ^ (num.log2 - 52)) * 2 ^ (num.log2 - 52) :=
      Nat.mul_le_mul_right _ (Nat.le_trans quotient div_le_roundHalfEven)

/-- A magnitude beyond the greatest exponent is infinite. -/
theorem ofUnits_of_large {size : Nat} (beyond : 2098 ≤ size) (large : 2 ^ size ≤ units) :
    ofUnits negative units = infinite negative := by
  have positive : units ≠ 0 := Nat.ne_of_gt (Nat.lt_of_lt_of_le (Nat.two_pow_pos size) large)
  have size_le : size ≤ units.log2 := (Nat.le_log2 positive).mpr large
  have normal : ¬ units < fractionCount := by
    have bound : 2 ^ 52 ≤ 2 ^ size := Nat.pow_le_pow_right (by decide) (by omega)
    rw [fractionCount_eq]
    omega
  have unfit : ¬ spareBits units + 1 < 2047 := by
    rw [spareBits]
    omega
  rw [ofUnits, if_neg normal]
  exact dif_neg unfit

theorem ofRatio_of_large (size : Nat) (beyond : 2098 ≤ size) (large : 2 ^ size ≤ num) :
    ofRatio negative num 1 = infinite negative :=
  ofUnits_of_large beyond (two_pow_le_nearestUnits (by omega) large)

/-! ## Signs -/

theorem neg_ofUnits : (ofUnits negative units).neg = ofUnits (!negative) units := by
  unfold ofUnits
  by_cases subnormal : units < fractionCount
  · rw [if_pos subnormal, if_pos subnormal, neg]
  · rw [if_neg subnormal, if_neg subnormal]
    by_cases fits : spareBits units + 1 < 2047 <;> simp only [fits, dite_true, dite_false, neg]

theorem neg_ofRatio : (ofRatio negative num den).neg = ofRatio (!negative) num den := neg_ofUnits

theorem isFinite_neg (x : Binary64) : x.neg.isFinite = x.isFinite := by
  cases x <;> rfl

/-! ## Decimals -/

/-- The number of units in one, with its exponent kept apart so that the power stays a power. -/
private theorem unitsPerOne_eq : ∃ bits, bits = 1074 ∧ unitsPerOne = 2 ^ bits := by
  obtain ⟨bits, size⟩ : ∃ bits, bits = 1074 := ⟨1074, rfl⟩
  refine ⟨bits, size, ?_⟩
  unfold unitsPerOne
  rw [← size, Nat.pow_eq]

private theorem le_pow_ten (exponent : Nat) : 2 ^ (3 * exponent) ≤ 10 ^ exponent := by
  rw [Nat.pow_mul]
  exact Nat.pow_le_pow_left (by decide) exponent

theorem ofDecimal_zero (negative : Bool) (exponent : Int) :
    ofDecimal negative 0 exponent = signedZero negative := by
  unfold ofDecimal
  rw [if_pos rfl]

/-- A decimal is rounded as the ratio that it is. -/
theorem ofDecimal_eq_ofRatio (negative : Bool) (coefficient : Nat) (exponent : Int) :
    ofDecimal negative coefficient exponent =
      ofRatio negative (coefficient * 10 ^ exponent.toNat * unitsPerOne) (10 ^ (-exponent).toNat) := by
  obtain ⟨bits, size, unit⟩ := unitsPerOne_eq
  by_cases zero : coefficient = 0
  · subst zero
    rw [ofDecimal_zero, Nat.zero_mul, Nat.zero_mul,
      ofRatio_of_small (Nat.pow_pos (by decide))]
  · unfold ofDecimal
    rw [if_neg zero, unit]
    cases exponent with
    | ofNat power =>
      have none : (-(power : Int)).toNat = 0 := by omega
      simp only [Int.ofNat_eq_natCast, none, Int.toNat_natCast, Nat.pow_eq, Nat.pow_zero]
      split
      · next beyond =>
        -- The power of ten is not computed where it alone is beyond all finite numbers.
        refine (ofRatio_of_large (3 * power + bits) (by omega) ?_).symm
        rw [Nat.pow_add]
        refine Nat.mul_le_mul_right _ (Nat.le_trans (le_pow_ten power) ?_)
        exact Nat.le_mul_of_pos_left _ (Nat.pos_of_ne_zero zero)
      · rfl
    | negSucc below =>
      have none : (Int.negSucc below).toNat = 0 := rfl
      have power : (-Int.negSucc below).toNat = below + 1 := by
        rw [Int.neg_negSucc, Int.toNat_natCast]
      simp only [none, power, Nat.pow_zero, Nat.mul_one, Nat.pow_eq]
      split
      · next vanishes =>
        -- Nor where even the greatest coefficient of its size leaves less than half a unit.
        refine (ofRatio_of_small ?_).symm
        have leading : coefficient < 2 ^ (coefficient.log2 + 1) := Nat.lt_log2_self
        calc 2 * (coefficient * 2 ^ bits)
            < 2 * (2 ^ (coefficient.log2 + 1) * 2 ^ bits) :=
              Nat.mul_lt_mul_of_pos_left
                (Nat.mul_lt_mul_of_pos_right leading (Nat.two_pow_pos _)) (by decide)
          _ = 2 ^ (coefficient.log2 + 1 + bits + 1) := by rw [← Nat.pow_add, ← Nat.pow_succ']
          _ ≤ 2 ^ (3 * (below + 1)) := Nat.pow_le_pow_right (by decide) (by omega)
          _ ≤ 10 ^ (below + 1) := le_pow_ten (below + 1)
      · rfl

/-- Zeros at the end of a coefficient shift the exponent. -/
theorem ofDecimal_mul_pow (negative : Bool) (coefficient zeros : Nat) (exponent : Int) :
    ofDecimal negative (coefficient * 10 ^ zeros) exponent =
      ofDecimal negative coefficient (exponent + zeros) := by
  rw [ofDecimal_eq_ofRatio, ofDecimal_eq_ofRatio]
  refine ofRatio_congr (Nat.pow_pos (by decide)) (Nat.pow_pos (by decide)) ?_
  have powers : 10 ^ zeros * 10 ^ exponent.toNat * 10 ^ (-(exponent + zeros)).toNat =
      10 ^ (exponent + zeros).toNat * 10 ^ (-exponent).toNat := by
    rw [← Nat.pow_add, ← Nat.pow_add, ← Nat.pow_add]
    congr 1
    omega
  generalize unitsPerOne = unit
  calc coefficient * 10 ^ zeros * 10 ^ exponent.toNat * unit * 10 ^ (-(exponent + zeros)).toNat
      = coefficient * unit *
          (10 ^ zeros * 10 ^ exponent.toNat * 10 ^ (-(exponent + zeros)).toNat) := by ring
    _ = coefficient * unit * (10 ^ (exponent + zeros).toNat * 10 ^ (-exponent).toNat) := by
      rw [powers]
    _ = coefficient * 10 ^ (exponent + zeros).toNat * unit * 10 ^ (-exponent).toNat := by ring

/-- Every number of units is a decimal, since half a power of ten is a power of five. -/
theorem ofDecimal_units (negative : Bool) (units : Nat) :
    ofDecimal negative (units * Nat.pow 5 1074) (-1074) = ofRatio negative units 1 := by
  obtain ⟨bits, size, unit⟩ := unitsPerOne_eq
  have exponent : (-1074 : Int) = -(bits : Int) := by omega
  have none : (-(bits : Int)).toNat = 0 := by omega
  have power : (-(-(bits : Int))).toNat = bits := by omega
  rw [← size, exponent, ofDecimal_eq_ofRatio, unit, none, power, Nat.pow_eq]
  refine ofRatio_congr (Nat.pow_pos (by decide)) Nat.one_pos ?_
  have tens : 10 ^ bits = 5 ^ bits * 2 ^ bits := by rw [← Nat.mul_pow]
  rw [tens]
  ring

/-- The sign has no part in the rounding. -/
theorem neg_ofDecimal (negative : Bool) (coefficient : Nat) (exponent : Int) :
    (ofDecimal negative coefficient exponent).neg = ofDecimal (!negative) coefficient exponent := by
  rw [ofDecimal_eq_ofRatio, ofDecimal_eq_ofRatio, neg_ofRatio]

end StepTrace.Binary64
