import StepTrace.Fault

/-!
# Expressions

The expressions of a line. Each node keeps the column of its operator, or of its
first character, for the faults that it may lead to.
-/

namespace StepTrace

/-- An expression. -/
inductive Expr where
  | literal (column : Nat) (value : Value)
  | name (column : Nat) (name : String)
  | unary (column : Nat) (sign : Sign) (operand : Expr)
  | binary (column : Nat) (op : Operator) (left right : Expr)
  | input (column : Nat)
  | prompt (column : Nat) (prompt : Expr)
  deriving Inhabited, Repr

namespace Expr

/-- The column of an expression. -/
def column : Expr → Nat
  | literal column _ | name column _ | unary column _ _ | binary column _ _ _ | input column
  | prompt column _ => column

/-- A call of `input`, by its prompt if it has one; nothing for other expressions. -/
def call? : Expr → Option (Option Expr)
  | input _ => some none
  | prompt _ text => some (some text)
  | _ => none

end Expr

end StepTrace
