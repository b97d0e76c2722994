import StepTrace.Proofs.Effect
import StepTrace.Proofs.Statement

/-!
# Literals that are too long

Reading a line refuses it with a fault, whatever is wrong with it, unless the reader
comes to an integer that is written with too many digits.
-/

namespace StepTrace

open Run (bind_eq_error mapError_fault_ne_abort)

variable {tokens : List Token} {abort : Abort} {stop column : Nat}

/-- A token that is an integer with too many digits, with the abort that it leads to. -/
def Overlong (token : Token) (abort : Abort) : Prop :=
  ∃ numeral, token.symbol = .number numeral ∧ numeral.isInteger = true ∧
    Text.digitLimit < numeral.whole.length ∧ abort = .literalTooLong numeral.whole.length

/-- One of the tokens is an integer with too many digits. -/
def AnyOverlong (tokens : List Token) (abort : Abort) : Prop :=
  ∃ token ∈ tokens, Overlong token abort

theorem AnyOverlong.mono {more : List Token} (overlong : AnyOverlong tokens abort)
    (subset : tokens ⊆ more) : AnyOverlong more abort := by
  obtain ⟨token, member, long⟩ := overlong
  exact ⟨token, subset member, long⟩

namespace Expr

theorem ofNumeral_abort {numeral : Numeral}
    (aborts : ofNumeral column numeral = .error (.abort abort)) :
    Overlong ⟨.number numeral, column⟩ abort := by
  unfold ofNumeral at aborts
  by_cases integer : numeral.isInteger = true
  · by_cases long : Text.digitLimit < numeral.whole.length
    · simp only [integer, long, if_true, Except.error.injEq, Failure.abort.injEq] at aborts
      exact ⟨numeral, rfl, integer, long, aborts.symm⟩
    · simp [integer, long] at aborts
  · simp only [integer, Bool.false_eq_true, if_false] at aborts
    split at aborts <;> cases aborts

theorem ofString_ne_abort [CharacterNames] {mark : Char} {body : List Char} :
    ofString column mark body ≠ .error (.abort abort) := by
  unfold ofString
  split <;> simp

/-- By induction on the recursion of the reader: it passes every failure on, and only a
    numeral makes one that is an abort. -/
theorem readOn_abort [CharacterNames] {frames : List Frame} {complete : Option Expr}
    (aborts : readOn stop frames complete tokens = .error (.abort abort)) :
    AnyOverlong tokens abort := by
  fun_induction readOn stop frames complete tokens with
  | case4 _ _ _ _ _ fails =>
    obtain rfl := Except.error.inj aborts
    exact ⟨_, List.mem_cons_self, ofNumeral_abort fails⟩
  | case6 _ _ _ _ _ _ fails =>
    obtain rfl := Except.error.inj aborts
    exact absurd fails ofString_ne_abort
  | case7 _ _ _ _ _ ih => exact (ih aborts).mono fun _ member => by simp [member]
  | case9 _ _ _ _ _ ih => exact (ih aborts).mono fun _ member => by simp [member]
  | case1 _ _ _ _ _ _ ih | case3 _ _ _ _ _ _ ih | case5 _ _ _ _ _ _ _ ih
  | case11 _ _ _ _ _ _ ih | case14 _ _ _ _ _ _ _ _ ih | case15 _ _ _ _ _ _ _ _ ih =>
    exact (ih aborts).mono (List.subset_cons_self ..)
  | case2 | case8 | case10 | case12 | case13 | case16 | case17 | case18 =>
    simp [unexpected] at aborts

theorem expectEnd_ne_abort : expectEnd stop tokens ≠ .error (.abort abort) := by
  cases tokens <;> simp [expectEnd, unexpected]

end Expr

namespace Statement

theorem expect_ne_abort {symbol : Symbol} :
    expect stop symbol tokens ≠ .error (.abort abort) := by
  cases tokens with
  | nil => simp [expect, Expr.unexpected]
  | cons token rest => by_cases here : token.symbol = symbol <;> simp [expect, here, Expr.unexpected]

theorem expectName_ne_abort : expectName stop tokens ≠ .error (.abort abort) := by
  unfold expectName
  split <;> simp [Expr.unexpected]

theorem expect_subset {symbol : Symbol} {rest : List Token}
    (expected : expect stop symbol tokens = .ok (column, rest)) : rest ⊆ tokens := by
  cases tokens with
  | nil => cases expected
  | cons token others =>
    by_cases here : token.symbol = symbol
    · simp only [expect, if_pos here, Except.ok.injEq, Prod.mk.injEq] at expected
      exact expected.2 ▸ List.subset_cons_self ..
    · simp [expect, here] at expected

theorem expectName_subset {name : String} {rest : List Token}
    (expected : expectName stop tokens = .ok (name, rest)) : rest ⊆ tokens := by
  obtain ⟨column, rfl⟩ := expectName_eq_ok.mp expected
  exact List.subset_cons_self ..

theorem readAssignment_abort [CharacterNames] {line : List Char} {target : String}
    (aborts : readAssignment line stop target tokens = .error (.abort abort)) :
    AnyOverlong tokens abort := by
  unfold readAssignment at aborts
  split at aborts
  · cases aborts
  · simp only [bind_eq_error, Expr.expectEnd_ne_abort, false_or] at aborts
    rcases aborts with fails | ⟨_, _, _, _, fails⟩
    · exact Expr.readOn_abort fails
    · cases fails

theorem readLoop_abort [CharacterNames] {line : List Char}
    (aborts : readLoop line stop tokens = .error (.abort abort)) : AnyOverlong tokens abort := by
  simp only [readLoop, bind_eq_error, expect_ne_abort, expectName_ne_abort, false_or] at aborts
  obtain ⟨⟨var, second⟩, name, ⟨inColumn, third⟩, wordIn, ⟨rangeColumn, fourth⟩, wordRange,
    ⟨first, rest⟩, opening, fails⟩ := aborts
  have subset : rest ⊆ tokens := fun token member =>
    expectName_subset name (expect_subset wordIn (expect_subset wordRange
      (expect_subset opening member)))
  split at fails
  · cases fails
  · simp only [bind_eq_error, expect_ne_abort, Expr.expectEnd_ne_abort, false_or] at fails
    rcases fails with count | ⟨_, _, _, _, _, _, _, _, returned⟩
    · exact (Expr.readOn_abort count).mono subset
    · cases returned

theorem readPrint_abort [CharacterNames] (aborts : readPrint stop tokens = .error (.abort abort)) :
    AnyOverlong tokens abort := by
  unfold readPrint at aborts
  split at aborts
  · simp only [bind_eq_error, Expr.expectEnd_ne_abort, false_or] at aborts
    obtain ⟨_, _, returned⟩ := aborts
    cases returned
  · simp only [bind_eq_error, expect_ne_abort, Expr.expectEnd_ne_abort, false_or] at aborts
    rcases aborts with fails | ⟨_, _, _, _, _, _, returned⟩
    · exact Expr.readOn_abort fails
    · cases returned

/-- A line whose reading aborts holds an integer with too many digits. -/
theorem ofLine_abort [CharacterNames] {line : List Char}
    (aborts : ofLine line = .error (.abort abort)) :
    ∃ tokens, Tokens.ofLine line = .ok tokens ∧ AnyOverlong tokens.list abort := by
  simp only [ofLine, bind_eq_error, mapError_fault_ne_abort, Run.mapError_eq_ok, false_or] at aborts
  obtain ⟨tokens, scanned, fails⟩ := aborts
  refine ⟨tokens, scanned, ?_⟩
  split at fails
  · next start =>
    exact (readAssignment_abort fails).mono fun _ member => by simp [start, member]
  · next start =>
    exact (readLoop_abort fails).mono fun _ member => by simp [start, member]
  · next start =>
    exact (readPrint_abort fails).mono fun _ member => by simp [start, member]
  · cases fails

end Statement

end StepTrace
