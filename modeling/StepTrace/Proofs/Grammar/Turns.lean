import StepTrace.Proofs.Grammar.Phrase

/-!
# Turns of the reader

Everything that the reader of expressions does in a turn: it takes a token or a call that is
opened, as `Turn` says, or it comes to an end. Where it comes to an end in front of a token that
no expression goes on with, or inside a call at the end of the line, it is `Stuck`. So a reading
that does not take all tokens comes by turns to a place where it is stuck (`reaches_stuck`), and
what follows this place has no part in the turns before it.
-/

namespace StepTrace

/-- An operand may begin with a symbol. -/
def Symbol.Opens : Symbol → Prop
  | operator op => op.sign?.isSome = true
  | number _ | string _ _ | name _ => True
  | leftParen | rightParen | colon | equals => False

/-- An operand that is complete goes on with a symbol, which is an operator. -/
def Symbol.Joins : Symbol → Prop
  | operator _ => True
  | number _ | string _ _ | name _ | leftParen | rightParen | colon | equals => False

namespace Expr

variable {stop column : Nat} {frames frames' outer : List Frame} {complete complete' : Option Expr}
  {read own tokens rest : List Token} {next : Option Token} {expr operand text : Expr}

/-- A turn takes some tokens, in front of another one or the end of the line, from what was begun
    and completed before to what is so after it. -/
inductive Turn [CharacterNames] :
    List Frame → Option Expr → List Token → Option Token → List Frame → Option Expr → Prop
  | sign {frames : List Frame} {op : Operator} {sign : Sign} {column : Nat} {next : Option Token}
      (signs : op.sign? = some sign) :
      Turn frames none [⟨.operator op, column⟩] next (.signed column sign :: frames) none
  | literal {frames : List Frame} {symbol : Symbol} {value : Value} {column : Nat}
      {next : Option Token} (denotes : Denotes symbol value) :
      Turn frames none [⟨symbol, column⟩] next frames (some (.literal column value))
  | name {frames : List Frame} {text : String} {column : Nat} {next : Option Token}
      (follows : ∀ token ∈ next, token.symbol ≠ .leftParen) :
      Turn frames none [⟨.name text, column⟩] next frames (some (.name column text))
  | input {frames : List Frame} {column opening closing : Nat} {next : Option Token} :
      Turn frames none [⟨.name "input", column⟩, ⟨.leftParen, opening⟩, ⟨.rightParen, closing⟩] next
        frames (some (.input column))
  | call {frames : List Frame} {column opening : Nat} {next : Option Token}
      (follows : ∀ token ∈ next, token.symbol ≠ .rightParen) :
      Turn frames none [⟨.name "input", column⟩, ⟨.leftParen, opening⟩] next
        (.call column :: frames) none
  | operation {frames outer : List Frame} {operand left : Expr} {op : Operator} {column : Nat}
      {next : Option Token} (absorbed : Frame.absorb op.isProduct frames operand = (outer, left)) :
      Turn frames (some operand) [⟨.operator op, column⟩] next
        (.operation column op left :: outer) none
  | close {frames outer : List Frame} {operand text : Expr} {column closing : Nat}
      {next : Option Token}
      (absorbed : Frame.absorb false frames operand = (.call column :: outer, text)) :
      Turn frames (some operand) [⟨.rightParen, closing⟩] next outer (some (.prompt column text))

/-- The reader does not go on with a token, or with the end of the line: no operand begins with
    it where one is due, a call is not closed, or nothing more may follow. -/
inductive Stuck : List Frame → Option Expr → Option Token → Prop
  | due {frames : List Frame} {next : Option Token}
      (closed : ∀ token ∈ next, ¬ token.symbol.Opens) : Stuck frames none next
  | inside {frames outer : List Frame} {operand text : Expr} {column : Nat} {next : Option Token}
      (absorbed : Frame.absorb false frames operand = (.call column :: outer, text))
      (apart : ∀ token ∈ next, ¬ token.symbol.Joins ∧ token.symbol ≠ .rightParen) :
      Stuck frames (some operand) next
  | outside {frames : List Frame} {operand whole : Expr} {token : Token}
      (absorbed : Frame.absorb false frames operand = ([], whole))
      (apart : ¬ token.symbol.Joins) : Stuck frames (some operand) (some token)

/-- The causes of a refusal for the form alone. -/
def Formal (cause : Cause) : Prop := cause = .unexpectedToken ∨ cause = .groupingParenthesis

/-- A failure for another cause than the form. -/
def Other (failure : Failure) : Prop := ∀ fault, failure = .fault fault → ¬ Formal fault.cause

/-! ## What the reader does -/

theorem Turn.readOn [CharacterNames]
    (turn : Turn frames complete own rest.head? frames' complete') :
    readOn stop frames complete (own ++ rest) = readOn stop frames' complete' rest := by
  generalize ahead : rest.head? = next at turn
  cases turn with
  | sign signs =>
    rw [List.singleton_append, Expr.readOn, signs]
  | literal denotes => exact readOn_literal denotes
  | name follows =>
    subst ahead
    exact readOn_name follows
  | input =>
    rw [List.cons_append, List.cons_append, List.cons_append, Expr.readOn]
    exact if_pos rfl
  | call follows =>
    subst ahead
    exact readOn_call follows
  | operation absorbed =>
    rw [List.singleton_append]
    conv => lhs; rw [Expr.readOn, absorbed]
  | close absorbed =>
    rw [List.singleton_append]
    conv => lhs; rw [Expr.readOn, absorbed]

/-- A turn keeps what has been begun and completed made up of the tokens that were read. -/
theorem Turn.reading [CharacterNames] (turn : Turn frames complete own next frames' complete')
    (reading : Reading frames read complete) : Reading frames' (read ++ own) complete' := by
  cases turn with
  | sign signs => exact Begun.signed reading signs
  | literal denotes => exact reading_some reading (.literal denotes) trivial id id
  | name => exact reading_some reading .name trivial id id
  | input => exact reading_some reading .input trivial id id
  | call => exact Begun.call reading
  | operation absorbed => exact reading.operation absorbed
  | close absorbed => exact reading.2.2.close _ absorbed

/-- Where the reader is stuck it refuses the next token for the form, or leaves it. -/
theorem Stuck.readOn [CharacterNames] (stop : Nat) (stuck : Stuck frames complete tokens.head?) :
    (∃ cause, Formal cause ∧ readOn stop frames complete tokens =
        .error (.fault (Fault.atColumn cause (nextColumn stop tokens)))) ∨
      tokens ≠ [] ∧ ∃ expr, readOn stop frames complete tokens = .ok (expr, tokens) := by
  generalize ahead : tokens.head? = next at stuck
  cases stuck with
  | due closed =>
    refine .inl ?_
    cases tokens with
    | nil => exact ⟨.unexpectedToken, .inl rfl, by rw [Expr.readOn] <;> simp [unexpected]⟩
    | cons token rest =>
      have unopened : ¬ token.symbol.Opens := closed token ahead.symm
      obtain ⟨symbol, column⟩ := token
      cases symbol with
      | number | string | name => exact absurd trivial unopened
      | operator op =>
        have unsigned : op.sign? = none := by simpa [Symbol.Opens] using unopened
        exact ⟨.unexpectedToken, .inl rfl, by rw [Expr.readOn, unsigned]; rfl⟩
      | leftParen => exact ⟨.groupingParenthesis, .inr rfl, by rw [Expr.readOn]; rfl⟩
      | rightParen | colon | equals =>
        exact ⟨.unexpectedToken, .inl rfl, by rw [Expr.readOn] <;> simp [unexpected]⟩
  | inside absorbed apart =>
    refine .inl ⟨.unexpectedToken, .inl rfl, ?_⟩
    subst ahead
    rw [Expr.readOn, absorbed]
    · rfl
    · rintro op column rest rfl
      exact (apart _ rfl).1 trivial
    · rintro column rest rfl
      exact (apart _ rfl).2 rfl
  | @outside operand whole token absorbed apart =>
    obtain ⟨rest, rfl⟩ := List.head?_eq_some_iff.mp ahead
    refine .inr ⟨List.cons_ne_nil token rest, whole, ?_⟩
    by_cases closes : token.symbol = .rightParen
    · obtain ⟨symbol, column⟩ := token
      obtain rfl : symbol = .rightParen := closes
      rw [Expr.readOn, absorbed]
    · rw [Expr.readOn, absorbed]
      · rintro op column others same
        obtain ⟨rfl, -⟩ := List.cons.inj same
        exact apart trivial
      · rintro column others same
        obtain ⟨rfl, -⟩ := List.cons.inj same
        exact closes rfl

theorem other_of_ofNumeral {numeral : Numeral} {failure : Failure}
    (fails : ofNumeral column numeral = .error failure) : Other failure := by
  unfold ofNumeral at fails
  rintro fault rfl
  split at fails
  · split at fails <;> cases fails
  · dsimp only at fails
    split at fails
    · cases fails
    · obtain rfl := Failure.fault.inj (Except.error.inj fails)
      simp [Formal, Fault.atColumn]

theorem other_of_ofString [CharacterNames] {mark : Char} {body : List Char} {failure : Failure}
    (fails : ofString column mark body = .error failure) : Other failure := by
  unfold ofString at fails
  rintro fault rfl
  split at fails
  · cases fails
  · obtain rfl := Failure.fault.inj (Except.error.inj fails)
    simp [Formal, Fault.about]

/-- Only `input` is called. -/
theorem readOn_undefined [CharacterNames] {text : String} {opening : Nat} (other : text ≠ "input") :
    readOn stop frames none (⟨.name text, column⟩ :: ⟨.leftParen, opening⟩ :: rest) =
      .error (.fault (Fault.atColumn (.undefinedName text) column)) := by
  by_cases closed : ∃ closing later, rest = ⟨.rightParen, closing⟩ :: later
  · obtain ⟨closing, later, rfl⟩ := closed
    rw [readOn, if_neg other]
  · rw [readOn, if_neg other]
    rintro closing later rfl
    exact closed ⟨closing, later, rfl⟩

/-- Filling frames stops at one that waits. -/
theorem waits_of_absorb {product : Bool} {left : List Frame} {whole : Expr}
    (absorbed : Frame.absorb product frames operand = (left, whole)) :
    ∀ frame ∈ left.head?, frame.takes product = false := by
  induction frames generalizing operand with
  | nil =>
    obtain ⟨rfl, -⟩ := Prod.mk.inj absorbed
    exact nofun
  | cons frame outer ih =>
    rw [Frame.absorb] at absorbed
    by_cases takes : frame.takes product = true
    · rw [if_pos takes] at absorbed
      exact ih absorbed
    · rw [if_neg takes] at absorbed
      obtain ⟨rfl, -⟩ := Prod.mk.inj absorbed
      simpa using takes

/-- When a complete operand has filled what it can, nothing is left, or a call. -/
theorem absorb_cases (frames : List Frame) (operand : Expr) :
    (∃ whole, Frame.absorb false frames operand = ([], whole)) ∨
      ∃ column outer text, Frame.absorb false frames operand = (.call column :: outer, text) := by
  cases absorbed : Frame.absorb false frames operand with
  | mk left whole =>
    rcases eq_nil_or_call_of_waits (waits_of_absorb absorbed) with rfl | ⟨column, outer, rfl⟩
    · exact .inl ⟨whole, rfl⟩
    · exact .inr ⟨column, outer, whole, rfl⟩

/-- What the reader can come to: it takes a turn, it is stuck, it has read all, or it fails for
    another cause. -/
inductive Comes [CharacterNames] (stop : Nat) (frames : List Frame) (complete : Option Expr)
    (tokens : List Token) : Prop
  | turns {own rest : List Token} {frames' : List Frame} {complete' : Option Expr}
      (whole : tokens = own ++ rest) (some_token : own ≠ [])
      (turn : Turn frames complete own rest.head? frames' complete')
  | stuck (stuck : Stuck frames complete tokens.head?)
  | ended {expr : Expr} (empty : tokens = [])
      (returns : readOn stop frames complete tokens = .ok (expr, []))
  | fails {failure : Failure} (other : Other failure)
      (returns : readOn stop frames complete tokens = .error failure)

/-- Where an operand is due, by the first token. -/
private theorem comes_due [CharacterNames] (stop : Nat) (frames : List Frame)
    (tokens : List Token) : Comes stop frames none tokens := by
  cases tokens with
  | nil => exact .stuck (.due nofun)
  | cons token rest =>
    obtain ⟨symbol, column⟩ := token
    cases symbol with
    | operator op =>
      cases signs : op.sign? with
      | some sign => exact .turns (List.singleton_append).symm (List.cons_ne_nil _ _) (.sign signs)
      | none =>
        refine .stuck (.due ?_)
        rintro _ ⟨⟩
        simp [Symbol.Opens, signs]
    | number numeral =>
      cases found : ofNumeral column numeral with
      | ok operand =>
        obtain ⟨value, denotes, rfl⟩ := ofNumeral_eq_ok_iff.mp found
        exact .turns (List.singleton_append).symm (List.cons_ne_nil _ _) (.literal denotes)
      | error failure => exact .fails (other_of_ofNumeral found) (by rw [Expr.readOn, found])
    | string mark body =>
      cases found : ofString column mark body with
      | ok operand =>
        obtain ⟨value, denotes, rfl⟩ := ofString_eq_ok_iff.mp found
        exact .turns (List.singleton_append).symm (List.cons_ne_nil _ _) (.literal denotes)
      | error failure => exact .fails (other_of_ofString found) (by rw [Expr.readOn, found])
    | name text =>
      by_cases called : ∃ opening others, rest = ⟨.leftParen, opening⟩ :: others
      · obtain ⟨opening, others, rfl⟩ := called
        by_cases isInput : text = "input"
        · subst isInput
          by_cases closed : ∃ closing later, others = ⟨.rightParen, closing⟩ :: later
          · obtain ⟨closing, later, rfl⟩ := closed
            exact .turns rfl (List.cons_ne_nil _ _) .input
          · refine .turns rfl (List.cons_ne_nil _ _) (.call ?_)
            rintro ⟨symbol, closing⟩ first rfl
            obtain ⟨later, same⟩ := List.head?_eq_some_iff.mp first
            exact closed ⟨closing, later, same⟩
        · refine .fails ?_ (readOn_undefined isInput)
          rintro fault same
          obtain rfl := Failure.fault.inj same
          simp [Formal, Fault.atColumn]
      · refine .turns (List.singleton_append).symm (List.cons_ne_nil _ _) (.name ?_)
        rintro ⟨symbol, opening⟩ first rfl
        obtain ⟨others, same⟩ := List.head?_eq_some_iff.mp first
        exact called ⟨opening, others, same⟩
    | leftParen | rightParen | colon | equals =>
      refine .stuck (.due ?_)
      rintro _ ⟨⟩
      exact id

/-- Where an operand is complete, by what it leaves when it has filled what it can. -/
private theorem comes_complete [CharacterNames] (stop : Nat) (frames : List Frame) (operand : Expr)
    (tokens : List Token) : Comes stop frames (some operand) tokens := by
  by_cases joined : ∃ op column rest, tokens = ⟨.operator op, column⟩ :: rest
  · obtain ⟨op, column, rest, rfl⟩ := joined
    exact .turns (List.singleton_append).symm (List.cons_ne_nil _ _) (.operation rfl)
  · have apart : ∀ token ∈ tokens.head?, ¬ token.symbol.Joins := by
      rintro ⟨symbol, column⟩ first joins
      obtain ⟨rest, same⟩ := List.head?_eq_some_iff.mp first
      cases symbol with
      | operator op => exact joined ⟨op, column, rest, same⟩
      | number | string | name | leftParen | rightParen | colon | equals => exact joins
    rcases absorb_cases frames operand with ⟨whole, absorbed⟩ | ⟨column, outer, text, absorbed⟩
    · cases tokens with
      | nil =>
        have returns : readOn stop frames (some operand) [] = .ok (whole, []) := by
          rw [Expr.readOn, absorbed] <;> simp
        exact .ended rfl returns
      | cons token rest => exact .stuck (.outside absorbed (apart token rfl))
    · by_cases closed : ∃ closing rest, tokens = ⟨.rightParen, closing⟩ :: rest
      · obtain ⟨closing, rest, rfl⟩ := closed
        exact .turns (List.singleton_append).symm (List.cons_ne_nil _ _) (.close absorbed)
      · refine .stuck (.inside absorbed fun token first => ⟨apart token first, fun closes => ?_⟩)
        obtain ⟨rest, same⟩ := List.head?_eq_some_iff.mp first
        exact closed ⟨token.column, rest, by rw [same, ← closes]⟩

theorem comes [CharacterNames] (stop : Nat) (frames : List Frame) (complete : Option Expr)
    (tokens : List Token) : Comes stop frames complete tokens := by
  cases complete with
  | none => exact comes_due stop frames tokens
  | some operand => exact comes_complete stop frames operand tokens

/-! ## Where the reader is stuck -/

/-- A reading that ends short of the last token, or for the form alone. -/
def FallsShort (result : Except Failure (Expr × List Token)) : Prop :=
  match result with
  | .ok (_, rest) => rest ≠ []
  | .error failure => ¬ Other failure

/-- A reading that falls short comes by turns to a place where it is stuck, and reads as far as
    this place whatever follows its next token. By induction on the number of tokens. -/
theorem reaches_stuck [CharacterNames] (stop : Nat) {frames : List Frame} {complete : Option Expr}
    {read tokens : List Token} (reading : Reading frames read complete)
    (short : FallsShort (readOn stop frames complete tokens)) :
    ∃ own rest frames' complete', tokens = own ++ rest ∧ Reading frames' (read ++ own) complete' ∧
      Stuck frames' complete' rest.head? ∧
      ∀ more, more.head? = rest.head? →
        readOn stop frames complete (own ++ more) = readOn stop frames' complete' more := by
  cases comes stop frames complete tokens with
  | stuck stuck =>
    exact ⟨[], tokens, frames, complete, rfl, by rwa [List.append_nil], stuck, fun _ _ => rfl⟩
  | ended empty returns =>
    rw [returns] at short
    exact absurd rfl short
  | fails other returns =>
    rw [returns] at short
    exact absurd other short
  | @turns first others frames₁ complete₁ whole some_token turn =>
    subst whole
    rw [turn.readOn] at short
    have shorter : others.length < (first ++ others).length := by
      have := List.length_pos_iff.mpr some_token
      rw [List.length_append]
      omega
    obtain ⟨own, rest, frames', complete', rfl, readingLater, stuck, later⟩ :=
      reaches_stuck stop (turn.reading reading) short
    refine ⟨first ++ own, rest, frames', complete', (List.append_assoc ..).symm,
      by rwa [← List.append_assoc], stuck, fun more same => ?_⟩
    have ahead : (own ++ more).head? = (own ++ rest).head? := by
      rw [List.head?_append, List.head?_append, same]
    rw [List.append_assoc, (ahead ▸ turn : Turn _ _ _ (own ++ more).head? _ _).readOn,
      later more same]
termination_by tokens.length

end Expr

end StepTrace
