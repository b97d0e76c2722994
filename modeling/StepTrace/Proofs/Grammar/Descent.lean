import StepTrace.Proofs.Grammar.Refusal

/-!
# Reading by descent

The rules of the grammar as functions that call each other. Each rule begins at a place in the
marks of a line, looks at one mark at a time, and returns the place where its part of the
expression stops; nothing but the marks that are there keeps it from looking past the last one
or from calling without end. What is claimed of a rule is that it comes to an end within the
marks, at a later place, and that it reads what the reader with its frames reads (`Comes`); here
are the marks and the single turns and calls, from which it is shown.
-/

namespace StepTrace

/-- The sign that a symbol is where an operand is due. -/
def Symbol.sign? : Symbol → Option Sign
  | operator op => op.sign?
  | _ => none

/-- The operator that a symbol is, of those that join products or of those that join sums. -/
def Symbol.joint? (product : Bool) : Symbol → Option Operator
  | operator op => if op.isProduct = product then some op else none
  | _ => none

/-- The tokens from a place on. -/
def Tokens.ahead (tokens : Tokens) (place : Nat) : List Token := tokens.list.drop place

/-- A symbol with its column, or the end of the line with the column after it. -/
abbrev Mark := Option Symbol × Nat

namespace Descent

open StepTrace.Expr (ofNumeral ofString readOn nextColumn)

/-- What keeps a rule from reading its part of an expression. -/
inductive Obstacle where
  /-- The line is refused. -/
  | refused (failure : Failure)
  /-- A mark is looked at that does not exist. -/
  | beyond
  /-- The calls are nested deeper than is allowed, or a chain is longer. -/
  | exhausted

/-! ## Places -/

/-- The mark at a place. -/
def look (marks : List Mark) (place : Nat) : Except Obstacle Mark :=
  match marks[place]? with
  | some mark => .ok mark
  | none => .error .beyond

/-- Refuses the mark at a place. -/
def refuse {α : Type} (marks : List Mark) (cause : Cause) (place : Nat) : Except Obstacle α := do
  let (_, column) ← look marks place
  throw (.refused (.fault (Fault.atColumn cause column)))

/-- Takes a symbol that has to come next, or the end. Returns its column and the next place. -/
def take (marks : List Mark) (due : Option Symbol) (place : Nat) : Except Obstacle (Nat × Nat) := do
  let (found, column) ← look marks place
  if found = due then return (column, place + 1) else refuse marks .unexpectedToken place

/-! ## Rules -/

/-- The rules of the grammar. -/
inductive Rule where
  | operand
  | signed
  /-- Operands that are joined by operators to a product, or products to a sum. -/
  | chain (product : Bool)

/-- The rule for the operands of a chain. -/
def Rule.below : Bool → Rule
  | true => signed
  | false => chain true

/-- Joins operands to the left side of a chain, as long as its operators come next. -/
def joined (marks : List Mark) (product : Bool) (operand : Nat → Except Obstacle (Expr × Nat)) :
    Nat → Expr → Nat → Except Obstacle (Expr × Nat)
  | 0, _, _ => .error .exhausted
  | turns + 1, left, place => do
    let (found, column) ← look marks place
    match found.bind (Symbol.joint? product) with
    | some op =>
      let (right, next) ← operand (place + 1)
      joined marks product operand turns (.binary column op left right) next
    | none => return (left, place)

/-- Reads by a rule from a place on, with calls that are nested so deep at most and chains that
    are at most as long. Returns the expression and the place after it. -/
def descend [CharacterNames] (marks : List Mark) : Nat → Rule → Nat → Except Obstacle (Expr × Nat)
  | 0, _, _ => .error .exhausted
  | depth + 1, .chain product, place => do
    let (left, next) ← descend marks depth (.below product) place
    joined marks product (descend marks depth (.below product)) depth left next
  | depth + 1, .signed, place => do
    let (found, column) ← look marks place
    match found.bind Symbol.sign? with
    | some sign =>
      let (operand, next) ← descend marks depth .signed (place + 1)
      return (.unary column sign operand, next)
    | none => descend marks depth .operand place
  | depth + 1, .operand, place => do
    match ← look marks place with
    | (some (.number numeral), column) =>
      ((ofNumeral column numeral).map (·, place + 1)).mapError .refused
    | (some (.string mark body), column) =>
      ((ofString column mark body).map (·, place + 1)).mapError .refused
    | (some (.name text), column) =>
      let (following, _) ← look marks (place + 1)
      if following ≠ some .leftParen then return (.name column text, place + 1)
      else if text ≠ "input" then
        throw (.refused (.fault (Fault.atColumn (.undefinedName text) column)))
      else
        let (argument, _) ← look marks (place + 2)
        if argument = some .rightParen then return (.input column, place + 3)
        else
          let (prompt, closing) ← descend marks depth (.chain false) (place + 2)
          let (_, next) ← take marks (some .rightParen) closing
          return (.prompt column prompt, next)
    | (some .leftParen, _) => refuse marks .groupingParenthesis place
    | _ => refuse marks .unexpectedToken place

/-- How many rules stand below a rule that read the same mark. -/
def Rule.rank : Rule → Nat
  | operand => 0
  | signed => 1
  | chain true => 2
  | chain false => 3

/-- So deep are calls nested at most where a rule has so many marks ahead. -/
def Rule.need (rule : Rule) (ahead : Nat) : Nat := 2 * ahead + rule.rank

@[simp] theorem Rule.need_operand (ahead : Nat) : operand.need ahead = 2 * ahead := rfl

@[simp] theorem Rule.need_signed (ahead : Nat) : signed.need ahead = 2 * ahead + 1 := rfl

@[simp] theorem Rule.need_sum (ahead : Nat) : (chain false).need ahead = 2 * ahead + 3 := rfl

theorem Rule.need_mono (rule : Rule) {fewer more : Nat} (le : fewer ≤ more) :
    rule.need fewer ≤ rule.need more := by
  unfold need
  omega

/-! ## What the rules do -/

/-- A rule begins where the reader may be with these frames: they keep waiting for a chain, and
    no sign comes next where an operand without one is due. -/
def Rule.Due (frames : List Frame) (rest : List Token) : Rule → Prop
  | operand => ∀ token ∈ rest.head?, token.symbol.sign? = none
  | signed => True
  | chain product => ∀ frame ∈ frames.head?, frame.takes product = false

/-- No operator comes next that belongs to a chain or to its operands. -/
def Over (product : Bool) (rest : List Token) : Prop :=
  ∀ token ∈ rest.head?, token.symbol.joint? product = none ∧ token.symbol.joint? true = none

/-- Nothing comes next that a rule would have gone on with. -/
def Rule.Over (rest : List Token) : Rule → Prop
  | operand | signed => True
  | chain product => Descent.Over product rest

/-- The reader with its frames goes on where a part of the expression has been read. -/
def resume [CharacterNames] (tokens : Tokens) (frames : List Frame)
    (outcome : Except Failure (Expr × Nat)) : Except Failure (Expr × List Token) := do
  let (expr, next) ← outcome
  readOn tokens.stop frames (some expr) (tokens.ahead next)

/-- What a rule comes to from a place on. -/
structure Comes [CharacterNames] (tokens : Tokens) (rule : Rule) (place : Nat)
    (outcome : Except Failure (Expr × Nat)) : Prop where
  /-- The rule ends, and it refuses the line or succeeds. -/
  settled : ∀ depth, rule.need (tokens.marks.length - place) ≤ depth →
    descend tokens.marks depth rule place = outcome.mapError .refused
  /-- It goes on by a mark at least, and leaves the last one. -/
  within : ∀ expr next, outcome = .ok (expr, next) → place < next ∧ next < tokens.marks.length
  ended : ∀ expr next, outcome = .ok (expr, next) → rule.Over (tokens.ahead next)
  /-- It reads what the reader with its frames reads. -/
  agrees : ∀ frames, rule.Due frames (tokens.ahead place) →
    readOn tokens.stop frames none (tokens.ahead place) = resume tokens frames outcome

/-- What the rest of a chain comes to from a place on, after its left side. -/
structure Continues [CharacterNames] (tokens : Tokens) (product : Bool) (left : Expr) (place : Nat)
    (outcome : Except Failure (Expr × Nat)) : Prop where
  settled : ∀ depth turns, (Rule.below product).need (tokens.marks.length - place) ≤ depth →
    tokens.marks.length - place ≤ turns →
      joined tokens.marks product (descend tokens.marks depth (.below product)) turns left place =
        outcome.mapError .refused
  within : ∀ expr next, outcome = .ok (expr, next) → place ≤ next ∧ next < tokens.marks.length
  ended : ∀ expr next, outcome = .ok (expr, next) → Over product (tokens.ahead next)
  agrees : ∀ frames, (∀ frame ∈ frames.head?, frame.takes product = false) →
    readOn tokens.stop frames (some left) (tokens.ahead place) = resume tokens frames outcome

variable {tokens : Tokens} {place next column stop : Nat} {product : Bool} {frames : List Frame}
  {frame : Frame} {operand left : Expr} {token : Token} {rest : List Token} {symbol : Symbol}

/-! ## Marks -/

theorem length_marks (tokens : Tokens) : tokens.marks.length = tokens.list.length + 1 := by
  simp [Tokens.marks]

/-- A mark that is there is the next token, or the end. -/
theorem look_marks (inside : place < tokens.marks.length) :
    look tokens.marks place = .ok ((tokens.ahead place).head?.map Token.symbol,
      nextColumn tokens.stop (tokens.ahead place)) := by
  rw [length_marks] at inside
  rw [look, Tokens.marks, Tokens.ahead]
  cases front : tokens.list.drop place with
  | nil =>
    have last : place = tokens.list.length :=
      Nat.le_antisymm (Nat.le_of_lt_succ inside) (List.drop_eq_nil_iff.mp front)
    rw [List.getElem?_append_right (by simp [last])]
    simp [last, nextColumn]
  | cons token rest =>
    have here : tokens.list[place]? = some token := by
      rw [← List.head?_drop, front]
      rfl
    have before : place < tokens.list.length := (List.getElem?_eq_some_iff.mp here).1
    rw [List.getElem?_append_left (by simpa using before), List.getElem?_map, here]
    rfl

/-- A token is followed by a mark. -/
theorem ahead_of_cons (front : tokens.ahead place = token :: rest) :
    tokens.ahead (place + 1) = rest ∧ place + 1 < tokens.marks.length := by
  have further : (tokens.list.drop place).length ≠ 0 := by
    rw [← Tokens.ahead, front]
    exact Nat.succ_ne_zero _
  rw [List.length_drop] at further
  refine ⟨?_, by rw [length_marks]; omega⟩
  rw [Tokens.ahead, ← List.tail_drop, ← Tokens.ahead, front, List.tail_cons]

/-- What holds of the symbol that comes next holds of the first token. -/
theorem exists_of_bind {α : Type} {read : Symbol → Option α} {a : α}
    (found : ((tokens.ahead place).head?.map Token.symbol).bind read = some a) :
    ∃ symbol column rest, tokens.ahead place = ⟨symbol, column⟩ :: rest ∧ read symbol = some a := by
  cases front : tokens.ahead place with
  | nil => simp [front] at found
  | cons token rest => exact ⟨token.symbol, token.column, rest, rfl, by simpa [front] using found⟩

theorem exists_of_next {due : Symbol} (next : rest.head?.map Token.symbol = some due) :
    ∃ column others, rest = ⟨due, column⟩ :: others := by
  obtain ⟨⟨_, column⟩, first, rfl⟩ := Option.map_eq_some_iff.mp next
  obtain ⟨others, front⟩ := List.head?_eq_some_iff.mp first
  exact ⟨column, others, front⟩

/-- The failure of a mark that is refused. -/
def refusal (tokens : Tokens) (cause : Cause) (place : Nat) : Failure :=
  .fault (Fault.atColumn cause (nextColumn tokens.stop (tokens.ahead place)))

theorem refuse_marks {α : Type} {cause : Cause} (inside : place < tokens.marks.length) :
    refuse tokens.marks cause place =
      (.error (.refused (refusal tokens cause place)) : Except Obstacle α) := by
  rw [refuse, look_marks inside]
  rfl

theorem take_here (front : tokens.ahead place = ⟨symbol, column⟩ :: rest) :
    take tokens.marks (some symbol) place = .ok (column, place + 1) := by
  rw [take, look_marks (Nat.lt_of_succ_lt (ahead_of_cons front).2), front]
  exact if_pos rfl

theorem take_other {due : Option Symbol} (inside : place < tokens.marks.length)
    (other : (tokens.ahead place).head?.map Token.symbol ≠ due) :
    take tokens.marks due place = .error (.refused (refusal tokens .unexpectedToken place)) := by
  rw [take, look_marks inside]
  simp only [bind, Except.bind, if_neg other, refuse_marks inside]

/-! ## Operators and signs -/

theorem joint?_eq_some {op : Operator} (joins : symbol.joint? product = some op) :
    symbol = .operator op ∧ op.isProduct = product := by
  cases symbol with
  | operator other =>
    rw [Symbol.joint?] at joins
    split at joins
    · next same => exact ⟨by rw [Option.some.inj joins], by rw [← Option.some.inj joins, same]⟩
    · cases joins
  | _ => cases joins

theorem sign?_eq_some {sign : Sign} (signs : symbol.sign? = some sign) :
    ∃ op, symbol = .operator op ∧ op.sign? = some sign := by
  cases symbol with
  | operator op => exact ⟨op, rfl, signs⟩
  | _ => cases signs

/-- An operand fills a frame that takes it before any operator that may come next. -/
theorem readOn_fill [CharacterNames] (takes : frame.takes false = true)
    (before : ∀ op column others, rest = ⟨.operator op, column⟩ :: others →
      frame.takes op.isProduct = true) :
    readOn stop (frame :: frames) (some operand) rest =
      readOn stop frames (some (frame.fill operand)) rest := by
  cases rest with
  | nil => simp [readOn, Frame.absorb, takes]
  | cons token others =>
    obtain ⟨symbol, column⟩ := token
    cases symbol with
    | operator op => simp [readOn, Frame.absorb, before op column others rfl]
    | _ => simp [readOn, Frame.absorb, takes]

/-- A completed operand of an operation makes it complete, if no operator comes next that belongs
    to the operand. -/
theorem readOn_operation [CharacterNames] {op : Operator}
    (ended : (Rule.below op.isProduct).Over rest) :
    readOn stop (.operation column op left :: frames) (some operand) rest =
      readOn stop frames (some (.binary column op left operand)) rest := by
  refine readOn_fill (by simp [Frame.takes]) ?_
  rintro other place others rfl
  cases level : op.isProduct with
  | true => simp [Frame.takes, level]
  | false =>
    rw [level] at ended
    have sum : (Symbol.operator other).joint? true = none := (ended _ rfl).1
    simpa [Frame.takes, Symbol.joint?, level] using sum

/-! ## Turns and calls -/

section Calls

variable {marks : List Mark} {found : Option Symbol} {depth turns : Nat}
  {sub : Nat → Except Obstacle (Expr × Nat)}

theorem joined_operator {op : Operator} (looked : look marks place = .ok (found, column))
    (joins : found.bind (Symbol.joint? product) = some op) :
    joined marks product sub (turns + 1) left place =
      sub (place + 1) >>= fun (right, next) =>
        joined marks product sub turns (.binary column op left right) next := by
  rw [joined, looked]
  simp only [bind, Except.bind, joins]

theorem joined_end (looked : look marks place = .ok (found, column))
    (apart : found.bind (Symbol.joint? product) = none) :
    joined marks product sub (turns + 1) left place = .ok (left, place) := by
  rw [joined, looked]
  simp only [bind, Except.bind, apart]
  rfl

theorem descend_sign [CharacterNames] {sign : Sign}
    (looked : look marks place = .ok (found, column))
    (signs : found.bind Symbol.sign? = some sign) :
    descend marks (depth + 1) .signed place =
      descend marks depth .signed (place + 1) >>= fun (operand, next) =>
        .ok (.unary column sign operand, next) := by
  rw [descend, looked]
  simp only [bind, Except.bind, signs]
  rfl

theorem descend_unsigned [CharacterNames] (looked : look marks place = .ok (found, column))
    (unsigned : found.bind Symbol.sign? = none) :
    descend marks (depth + 1) .signed place = descend marks depth .operand place := by
  rw [descend, looked]
  simp only [bind, Except.bind, unsigned]

theorem descend_chain [CharacterNames] : descend marks (depth + 1) (.chain product) place =
    descend marks depth (.below product) place >>= fun (left, next) =>
      joined marks product (descend marks depth (.below product)) depth left next := by
  rw [descend]

end Calls

end Descent

end StepTrace
