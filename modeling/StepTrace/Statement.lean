import StepTrace.Expr.Parser
import StepTrace.Text.Blank

/-!
# Statements

A line is one of four statements. A name and an equals sign begin an assignment,
whatever the name is, or a question when the whole right-hand side is a call of
`input`; otherwise the words `for` and `print` decide. Nothing else is a statement.
-/

namespace StepTrace

/-- A statement. -/
inductive Statement where
  /-- `target = input(prompt)`: asks for the value of a variable. -/
  | question (target : String) (prompt : Option Expr)
  /-- `for var in range(count):` begins a loop; the text of the count is kept. -/
  | loop (var : String) (count : Expr) (countText : List Char)
  /-- `target = value` sets a variable. -/
  | assignment (target : String) (value : Expr)
  /-- `print(value)` shows a value, or an empty line. -/
  | print (value : Option Expr)
  deriving Inhabited, Repr

namespace Statement

/-- Takes a symbol that has to come next, giving its column. -/
def expect (stop : Nat) (symbol : Symbol) : List Token → Except Failure (Nat × List Token)
  | [] => .error (Expr.unexpected stop [])
  | token :: rest =>
    if token.symbol = symbol then .ok (token.column, rest)
    else .error (Expr.unexpected stop (token :: rest))

/-- Takes a name that has to come next. -/
def expectName (stop : Nat) : List Token → Except Failure (String × List Token)
  | ⟨.name text, _⟩ :: rest => .ok (text, rest)
  | tokens => .error (Expr.unexpected stop tokens)

/-- The statement of a name that is set to the expression of the tokens. -/
def readAssignment [CharacterNames] (line : List Char) (stop : Nat) (target : String)
    (tokens : List Token) : Except Failure Statement :=
  match tokens with
  | [] => .error (.fault (Fault.about .unexpectedToken stop line))
  | _ => do
    let (value, rest) ← Expr.read stop tokens
    Expr.expectEnd stop rest
    return value.call?.elim (assignment target value) (question target)

/-- The loop whose tokens follow the word `for`. The text of its count stands
    between the parentheses, without the white space at its ends. -/
def readLoop [CharacterNames] (line : List Char) (stop : Nat) (tokens : List Token) :
    Except Failure Statement := do
  let (var, tokens) ← expectName stop tokens
  let (_, tokens) ← expect stop (.name "in") tokens
  let (_, tokens) ← expect stop (.name "range") tokens
  let (first, tokens) ← expect stop .leftParen tokens
  match tokens with
  | ⟨.rightParen, column⟩ :: _ => throw (.fault (Fault.atColumn .missingCount column))
  | _ =>
    let (count, tokens) ← Expr.read stop tokens
    let (last, tokens) ← expect stop .rightParen tokens
    let (_, tokens) ← expect stop .colon tokens
    Expr.expectEnd stop tokens
    return loop var count (Text.trim ((line.take (last - 1)).drop first))

/-- The statement whose tokens follow `print` and its parenthesis. -/
def readPrint [CharacterNames] (stop : Nat) (tokens : List Token) : Except Failure Statement :=
  match tokens with
  | ⟨.rightParen, _⟩ :: rest => do
    Expr.expectEnd stop rest
    return print none
  | _ => do
    let (value, rest) ← Expr.read stop tokens
    let (_, rest) ← expect stop .rightParen rest
    Expr.expectEnd stop rest
    return print (some value)

/-- The statement of a line that is neither blank nor a comment and has no white
    space at its ends. -/
def ofLine [CharacterNames] (line : List Char) : Except Failure Statement := do
  let tokens ← (Tokens.ofLine line).mapError .fault
  match tokens.list with
  | ⟨.name target, _⟩ :: ⟨.equals, _⟩ :: rest => readAssignment line tokens.stop target rest
  | ⟨.name "for", _⟩ :: rest => readLoop line tokens.stop rest
  | ⟨.name "print", _⟩ :: ⟨.leftParen, _⟩ :: rest => readPrint tokens.stop rest
  | _ => throw (.fault (Fault.about .unknownStatement 1 line))

end Statement

end StepTrace
