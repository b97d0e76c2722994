import StepTrace.Arithmetic
import StepTrace.Expr.Parser
import StepTrace.Scope
import StepTrace.Text.Blank

/-!
# The value of an expression

Operands are evaluated from left to right before the operation that joins them,
so the fault of an expression is that of the first node that fails in this order.
A call of `input` inside an expression has the value of its prompt.

Depth is idealised. An interpreter that calls itself at each node has a limit to
how deep it may go, which depends on what called it; here every tree has a value
or a fault of its own, however deep it is.
-/

namespace StepTrace.Expr

/-- The value of an expression in a scope. -/
def eval (scope : Scope) : Expr → Except Fault Value
  | literal _ value => .ok value
  | name column text =>
    match scope.get? text with
    | some value => .ok value
    | none => .error (Fault.atColumn (.undefinedName text) column)
  | unary column sign operand => do
    let value ← eval scope operand
    match value.number? with
    | some number => .ok (number.signed sign).toValue
    | none => .error (Fault.atColumn (.signedOperand sign value.kind) column)
  | binary column op left right => do
    let leftValue ← eval scope left
    let rightValue ← eval scope right
    match leftValue.number?, rightValue.number? with
    | some leftNumber, some rightNumber =>
      match Number.apply op leftNumber rightNumber with
      | .ok number => .ok number.toValue
      | .error cause => .error (Fault.atColumn cause column)
    | _, _ => .error (Fault.atColumn (.operands op leftValue.kind rightValue.kind) column)
  | input _ => .ok (.str "")
  | prompt _ text => eval scope text

/-- The value of an expression that is given as text, with or without white
    space around it. -/
def evalText [CharacterNames] (text : List Char) (scope : Scope) : Except Failure Value := do
  let expr ← parse (Text.trim text)
  (expr.eval scope).mapError .fault

end StepTrace.Expr
