import StepTrace.Fault
import StepTrace.Numeral

/-!
# Tokens

The tokens of a line. A token keeps the characters it was read from, and the
column of its first one, counted from one.
-/

namespace StepTrace

/-- What a token is. -/
inductive Symbol where
  | number (numeral : Numeral)
  /-- A string literal, by its quote and the characters between the quotes. -/
  | string (mark : Char) (body : List Char)
  | name (text : String)
  | operator (op : Operator)
  | leftParen
  | rightParen
  | colon
  | equals
  deriving DecidableEq, Repr

/-- The characters of a symbol. -/
def Symbol.lexeme : Symbol → List Char
  | number numeral => numeral.lexeme
  | string mark body => mark :: body ++ [mark]
  | name text => text.toList
  | operator op => [op.symbol]
  | leftParen => ['(']
  | rightParen => [')']
  | colon => [':']
  | equals => ['=']

/-- A symbol at a column. -/
structure Token where
  symbol : Symbol
  /-- The column of its first character. -/
  column : Nat
  deriving DecidableEq, Repr

/-- The tokens of a line, and the column after the line's last character. -/
structure Tokens where
  list : List Token
  /-- The column after the last character. -/
  stop : Nat
  deriving DecidableEq, Repr

end StepTrace
