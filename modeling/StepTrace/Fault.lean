import StepTrace.Text.Integer
import StepTrace.Text.Quoted
import StepTrace.Value

/-!
# Faults

What can go wrong in a program, by cause, with one function for the wording. A
fault ends a run and is shown as its last step; an abort lets no run come about.
-/

namespace StepTrace

/-- The four arithmetic operations. -/
inductive Operator where
  | add | sub | mul | div
  deriving DecidableEq, Repr

/-- The character of an operation. -/
def Operator.symbol : Operator → Char
  | add => '+'
  | sub => '-'
  | mul => '*'
  | div => '/'

/-- The two signs before an operand. -/
inductive Sign where
  | plus | minus
  deriving DecidableEq, Repr

/-- The character of a sign. -/
def Sign.symbol : Sign → Char
  | plus => '+'
  | minus => '-'

/-- What went wrong. -/
inductive Cause where
  | unterminatedString
  | invalidCharacter (c : Char)
  | unexpectedToken
  | groupingParenthesis
  | invalidString
  | missingCount
  | unknownStatement
  | undefinedName (name : String)
  | signedOperand (sign : Sign) (kind : ValueKind)
  | operands (op : Operator) (left right : ValueKind)
  /-- A loop count that is no integer; the text is that of the count. -/
  | countNotInteger (count : String)
  | divisionByZero
  | outOfRange
  | integerTooLarge
  | quotientTooLarge
  | textTooLong
  | tooManyIterations (limit requested : Int)
  | tooManySteps (limit : Int)
  deriving DecidableEq, Repr

/-- The kinds of fault that a reader of a trace is told. -/
inductive FaultKind where
  | naming | typing | division | form | budget | overflow
  deriving DecidableEq, Repr

/-- The word for a kind of fault. -/
def FaultKind.word : FaultKind → String
  | naming => "NameError"
  | typing => "TypeError"
  | division => "ZeroDivisionError"
  | form => "SyntaxError"
  | budget => "RuntimeError"
  | overflow => "OverflowError"

/-- An integer in a message. -/
def shownInt (n : Int) : String := String.ofList (Text.decimal n)

/-- The sentence for an integer that has too many digits to be shown. -/
def textTooLongMessage : String :=
  "Exceeds the limit (4300 digits) for integer string conversion; " ++
    "use sys.set_int_max_str_digits() to increase the limit"

namespace Cause

/-- The kind of fault that a cause makes. -/
def kind : Cause → FaultKind
  | unterminatedString | invalidCharacter _ | unexpectedToken | groupingParenthesis
  | invalidString | missingCount | unknownStatement => .form
  | undefinedName _ => .naming
  | signedOperand _ _ | operands _ _ _ | countNotInteger _ => .typing
  | divisionByZero => .division
  | outOfRange | integerTooLarge | quotientTooLarge | textTooLong => .overflow
  | tooManyIterations _ _ | tooManySteps _ => .budget

/-- The wording of a cause. -/
def message : Cause → String
  | unterminatedString => "unterminated string literal"
  | invalidCharacter c => "invalid character '" ++ String.singleton c ++ "'"
  | unexpectedToken => "invalid syntax"
  | groupingParenthesis => "parenthesized expressions are not supported"
  | invalidString => "invalid string literal"
  | missingCount => "range expected 1 argument, got 0"
  | unknownStatement => "invalid or unsupported syntax"
  | undefinedName name => "name '" ++ name ++ "' is not defined"
  | signedOperand sign operand =>
    "bad operand type for unary " ++ String.singleton sign.symbol ++ ": '" ++ operand.word ++ "'"
  | operands op left right =>
    "unsupported operand type(s) for " ++ String.singleton op.symbol ++ ": '" ++ left.word ++
      "' and '" ++ right.word ++ "'"
  | countNotInteger count => "'" ++ count ++ "' does not evaluate to an integer"
  | divisionByZero => "division by zero"
  | outOfRange => "numerical result out of range"
  | integerTooLarge => "int too large to convert to float"
  | quotientTooLarge => "integer division result too large for a float"
  | textTooLong => textTooLongMessage
  | tooManyIterations limit requested =>
    "loop iteration limit of " ++ shownInt limit ++ " exceeded (" ++ shownInt requested ++
      " requested)"
  | tooManySteps limit => "step limit of " ++ shownInt limit ++ " exceeded"

end Cause

/-- A cause with the place it was found at: a column of the line, counted from
    one, and the text that the cause is about. -/
structure Fault where
  cause : Cause
  column : Option Nat
  text : Option String
  deriving DecidableEq, Repr

namespace Fault

/-- A fault at a column. -/
def atColumn (cause : Cause) (column : Nat) : Fault := ⟨cause, some column, none⟩

/-- A fault at a column that is about a text. -/
def about (cause : Cause) (column : Nat) (text : List Char) : Fault :=
  ⟨cause, some column, some (String.ofList text)⟩

/-- A fault without a place. -/
def bare (cause : Cause) : Fault := ⟨cause, none, none⟩

/-- The word for the kind of a fault. -/
def word (fault : Fault) : String := fault.cause.kind.word

/-- The wording of a fault without its kind. -/
def message (fault : Fault) : String := fault.cause.message

/-- The line that describes a fault. -/
def describe (fault : Fault) : String := fault.word ++ ": " ++ fault.message

end Fault

/-- Why no run comes about. -/
inductive Abort where
  | negativeStart
  | invalidVariable (name : String)
  /-- An integer is written with this number of digits, which is too many. -/
  | literalTooLong (digits : Nat)
  /-- An integer with too many digits is shown in a prompt or in a message. -/
  | textTooLong
  deriving DecidableEq, Repr

/-- The sentence for an integer that is written with too many digits. -/
def literalTooLongMessage (digits : Nat) : String :=
  "Exceeds the limit (4300 digits) for integer string conversion: value has " ++
    shownInt digits ++ " digits; use sys.set_int_max_str_digits() to increase the limit"

/-- The wording of an abort. -/
def Abort.message : Abort → String
  | negativeStart => "start_line must be >= 0"
  | invalidVariable name =>
    "invalid input variable name: " ++ String.ofList (Text.quoted name)
  | literalTooLong digits => literalTooLongMessage digits
  | textTooLong => textTooLongMessage

/-- What keeps a line from being read or run. -/
inductive Failure where
  | fault (fault : Fault)
  | abort (abort : Abort)
  deriving DecidableEq, Repr

end StepTrace
