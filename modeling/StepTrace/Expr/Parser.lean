import StepTrace.Expr
import StepTrace.Text.Escape
import StepTrace.Token.Lexer

/-!
# Reading an expression

An expression is a sum of products of signed operands, where sums and products
group to the left:

    sum     := product (('+' | '-') product)*
    product := signed (('*' | '/') signed)*
    signed  := ('+' | '-') signed | operand
    operand := number | string | name | 'input' '(' sum? ')'

It is read token by token. What has been begun and not ended is kept as a list of
frames, the innermost first: a sign or an operation that waits for its operand, or
a call that waits for its parenthesis. When an operand is complete and an operator
follows, the frames that bind at least as tightly are filled with it. Reading
stops at the first token that continues no expression and leaves it.

Depth is idealised: there may be any number of frames, while a reader that calls
itself for each sign, call and operand has a limit to how many may be begun at once.
-/

namespace StepTrace

/-- Multiplication and division, which bind more tightly than the others. -/
def Operator.isProduct : Operator → Bool
  | .mul | .div => true
  | .add | .sub => false

/-- The sign that an operator is where an operand is due. -/
def Operator.sign? : Operator → Option Sign
  | .add => some .plus
  | .sub => some .minus
  | .mul | .div => none

/-- An expression that was begun and waits for an operand. -/
inductive Frame where
  | signed (column : Nat) (sign : Sign)
  | operation (column : Nat) (op : Operator) (left : Expr)
  | call (column : Nat)
  deriving Repr

namespace Frame

/-- The expression that a frame becomes with its operand. -/
def fill : Frame → Expr → Expr
  | signed column sign, operand => .unary column sign operand
  | operation column op left, right => .binary column op left right
  | call column, text => .prompt column text

/-- Whether a frame takes a complete operand before what comes next, which is a
    product or anything else. Only its parenthesis ends a call. -/
def takes (product : Bool) : Frame → Bool
  | signed _ _ => true
  | operation _ op _ => op.isProduct || !product
  | call _ => false

/-- Fills the innermost frames that take the operand. -/
def absorb (product : Bool) : List Frame → Expr → List Frame × Expr
  | [], operand => ([], operand)
  | frame :: outer, operand =>
    if frame.takes product then absorb product outer (frame.fill operand)
    else (frame :: outer, operand)

end Frame

namespace Expr

/-- The column of the next token, or the one after the line. -/
def nextColumn (stop : Nat) : List Token → Nat
  | [] => stop
  | token :: _ => token.column

/-- The refusal of the next token. -/
def unexpected (stop : Nat) (tokens : List Token) : Failure :=
  .fault (Fault.atColumn .unexpectedToken (nextColumn stop tokens))

/-- The value of a numeral. An integer has a limited number of digits and a
    floating-point number has to be finite. -/
def ofNumeral (column : Nat) (numeral : Numeral) : Except Failure Expr :=
  if numeral.isInteger then
    if Text.digitLimit < numeral.whole.length then
      .error (.abort (.literalTooLong numeral.whole.length))
    else .ok (.literal column (.int (Text.natOfDigits numeral.whole)))
  else
    let x := numeral.toBinary64 false
    if x.isFinite then .ok (.literal column (.float x))
    else .error (.fault (Fault.atColumn .outOfRange column))

/-- The text of a string literal. -/
def ofString [CharacterNames] (column : Nat) (mark : Char) (body : List Char) :
    Except Failure Expr :=
  match Text.unescape body with
  | some text => .ok (.literal column (.str ⟨text⟩))
  | none =>
    .error (.fault (Fault.about .invalidString column (Symbol.string mark body).lexeme))

/-- Reads on with the frames begun so far, where an operand is due or has just
    been completed. Returns the expression and the tokens that it leaves. -/
def readOn [CharacterNames] (stop : Nat) (frames : List Frame) (complete : Option Expr)
    (tokens : List Token) : Except Failure (Expr × List Token) :=
  match complete with
  | none =>
    match tokens with
    | ⟨.operator op, column⟩ :: rest =>
      match op.sign? with
      | some sign => readOn stop (.signed column sign :: frames) none rest
      | none => .error (unexpected stop tokens)
    | ⟨.number numeral, column⟩ :: rest =>
      match ofNumeral column numeral with
      | .ok operand => readOn stop frames (some operand) rest
      | .error failure => .error failure
    | ⟨.string mark body, column⟩ :: rest =>
      match ofString column mark body with
      | .ok operand => readOn stop frames (some operand) rest
      | .error failure => .error failure
    | ⟨.name text, column⟩ :: ⟨.leftParen, _⟩ :: ⟨.rightParen, _⟩ :: rest =>
      if text = "input" then readOn stop frames (some (.input column)) rest
      else .error (.fault (Fault.atColumn (.undefinedName text) column))
    | ⟨.name text, column⟩ :: ⟨.leftParen, _⟩ :: rest =>
      if text = "input" then readOn stop (.call column :: frames) none rest
      else .error (.fault (Fault.atColumn (.undefinedName text) column))
    | ⟨.name text, column⟩ :: rest => readOn stop frames (some (.name column text)) rest
    | ⟨.leftParen, column⟩ :: _ =>
      .error (.fault (Fault.atColumn .groupingParenthesis column))
    | _ => .error (unexpected stop tokens)
  | some operand =>
    match tokens with
    | ⟨.operator op, column⟩ :: rest =>
      let (outer, left) := Frame.absorb op.isProduct frames operand
      readOn stop (.operation column op left :: outer) none rest
    | ⟨.rightParen, _⟩ :: rest =>
      match Frame.absorb false frames operand with
      | (.call column :: outer, text) => readOn stop outer (some (.prompt column text)) rest
      | (_, whole) => .ok (whole, tokens)
    | _ =>
      match Frame.absorb false frames operand with
      | ([], whole) => .ok (whole, tokens)
      | _ => .error (unexpected stop tokens)
termination_by structural tokens

/-- The expression at the front of the tokens of a line, and the tokens that it
    leaves. -/
def read [CharacterNames] (stop : Nat) (tokens : List Token) : Except Failure (Expr × List Token) :=
  readOn stop [] none tokens

/-- Nothing may follow. -/
def expectEnd (stop : Nat) : List Token → Except Failure Unit
  | [] => .ok ()
  | tokens => .error (unexpected stop tokens)

/-- The expression that a text is. -/
def parse [CharacterNames] (text : List Char) : Except Failure Expr := do
  let tokens ← (Tokens.ofLine text).mapError .fault
  let (expr, rest) ← read tokens.stop tokens.list
  expectEnd tokens.stop rest
  return expr

end Expr

end StepTrace
