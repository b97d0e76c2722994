import StepTrace.Proofs.Grammar

/-!
# Columns

Where an expression stands in its line shows in its columns only: farther to the right it has
the same form and the same value.
-/

namespace StepTrace

open Run (bind_eq_ok)

variable {distance : Nat} {expr : Expr} {tokens : List Token}

/-- A token farther to the right. -/
def Token.shifted (distance : Nat) (token : Token) : Token :=
  { token with column := token.column + distance }

namespace Expr

/-- An expression farther to the right. -/
def shifted (distance : Nat) : Expr → Expr
  | .literal column value => .literal (column + distance) value
  | .name column text => .name (column + distance) text
  | .unary column sign operand => .unary (column + distance) sign (operand.shifted distance)
  | .binary column op left right =>
    .binary (column + distance) op (left.shifted distance) (right.shifted distance)
  | .input column => .input (column + distance)
  | .prompt column text => .prompt (column + distance) (text.shifted distance)

theorem isSum_shifted : (expr.shifted distance).IsSum ↔ expr.IsSum := by
  cases expr <;> rfl

theorem isProduct_shifted : (expr.shifted distance).IsProduct ↔ expr.IsProduct := by
  cases expr <;> rfl

theorem call?_shifted (notCall : expr.call? = none) : (expr.shifted distance).call? = none := by
  cases expr <;> first | rfl | cases notCall

theorem Normal.shifted (normal : expr.Normal) : (expr.shifted distance).Normal := by
  induction expr with
  | literal | name | input => trivial
  | unary column sign operand ih =>
    obtain ⟨operandNormal, notSum, notProduct⟩ := normal
    exact ⟨ih operandNormal, mt isSum_shifted.mp notSum, mt isProduct_shifted.mp notProduct⟩
  | binary column op left right ihLeft ihRight =>
    obtain ⟨leftNormal, rightNormal, rightNotSum, tight⟩ := normal
    refine ⟨ihLeft leftNormal, ihRight rightNormal, mt isSum_shifted.mp rightNotSum,
      fun isProduct => ?_⟩
    obtain ⟨leftNotSum, rightNotProduct⟩ := tight isProduct
    exact ⟨mt isSum_shifted.mp leftNotSum, mt isProduct_shifted.mp rightNotProduct⟩
  | prompt column text ih => exact ih normal

theorem Spells.shifted [CharacterNames] (spelled : Spells expr tokens) :
    Spells (expr.shifted distance) (tokens.map (Token.shifted distance)) := by
  induction spelled with
  | literal denotes => exact .literal denotes
  | name => exact .name
  | unary signs _ ih => exact .unary signs ih
  | binary _ _ ihLeft ihRight =>
    rw [List.map_append, List.map_cons]
    exact .binary ihLeft ihRight
  | input => exact .input
  | prompt _ ih =>
    rw [List.map_cons, List.map_cons, List.map_append]
    exact .prompt ih

/-- The columns have no part in the value of an expression. -/
theorem eval_shifted {scope : Scope} {value : Value} (valued : expr.eval scope = .ok value) :
    (expr.shifted distance).eval scope = .ok value := by
  induction expr generalizing value with
  | literal => exact valued
  | name column text =>
    rw [eval] at valued
    rw [shifted, eval]
    split at valued
    · exact valued
    · cases valued
  | unary column sign operand ih =>
    rw [eval, bind_eq_ok] at valued
    obtain ⟨inner, valuedInner, signed⟩ := valued
    rw [shifted, eval, bind_eq_ok]
    refine ⟨inner, ih valuedInner, ?_⟩
    split at signed
    · exact signed
    · cases signed
  | binary column op left right ihLeft ihRight =>
    simp only [eval, bind_eq_ok] at valued
    obtain ⟨first, valuedLeft, second, valuedRight, applied⟩ := valued
    simp only [shifted, eval, bind_eq_ok]
    refine ⟨first, ihLeft valuedLeft, second, ihRight valuedRight, ?_⟩
    split at applied
    · split at applied
      · exact applied
      · cases applied
    · cases applied
  | input => exact valued
  | prompt column text ih => exact ih valued

end Expr

end StepTrace
