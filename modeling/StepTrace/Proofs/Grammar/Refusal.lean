import StepTrace.Proofs.Grammar.Turns
import StepTrace.Proofs.Token.Coverage

/-!
# Where an expression is refused

A text that is no expression for its form is refused at the first of its tokens with which no
expression goes on (`Expr.parse_refused_first`). Before it every call that is open can be closed
and every operand that is due can be given, so the tokens read so far begin an expression; with
it the reader is stuck, whatever follows.
-/

namespace StepTrace

open Run (bind_eq_error)

/-- A token by its symbol and its column. -/
def Token.mark (token : Token) : Option Symbol × Nat := (some token.symbol, token.column)

/-- The tokens of a text, and then the end of the text, which has no symbol. -/
def Tokens.marks (tokens : Tokens) : List (Option Symbol × Nat) :=
  tokens.list.map Token.mark ++ [(none, tokens.stop)]

namespace Expr

variable {stop : Nat} {frames : List Frame} {complete : Option Expr} {expr operand : Expr}
  {read own rest list : List Token} {text : List Char} {tokens : Tokens} {fault : Fault}

/-- These are the tokens of a text that is an expression. -/
def Accepted [CharacterNames] (tokens : Tokens) : Prop :=
  ∃ text expr, Tokens.ofLine text = .ok tokens ∧ parse text = .ok expr

/-- A fault with one of the two sentences for a text of another form than an expression. -/
def Malformed (fault : Fault) : Prop :=
  fault.word = "SyntaxError" ∧
    (fault.message = "invalid syntax" ∨
      fault.message = "parenthesized expressions are not supported")

/-! ## What was read begins an expression -/

/-- Some tokens make a phrase of those that were read. -/
def Viable [CharacterNames] (read : List Token) : Prop :=
  ∃ expr more, Phrase expr (read ++ more) ∧ ∀ token ∈ more, token.symbol.Formed

/-- A complete operand fills what it can, and a parenthesis closes each call that is open. By
    induction on what has been begun. -/
theorem Completed.viable [CharacterNames] (completed : Completed frames operand read) :
    Viable read := by
  induction frames generalizing operand read with
  | nil =>
    obtain ⟨normal, spelled⟩ := completed.whole
    exact ⟨operand, [], by rw [List.append_nil]; exact ⟨normal, spelled⟩, nofun⟩
  | cons frame outer ih =>
    by_cases takes : frame.takes false = true
    · exact ih (completed.fill takes)
    · have waits : ∀ first ∈ (frame :: outer).head?, first.takes false = false := by
        rintro _ ⟨⟩
        simpa using takes
      rcases eq_nil_or_call_of_waits waits with none | ⟨column, others, same⟩
      · cases none
      · obtain ⟨rfl, rfl⟩ := List.cons.inj same
        obtain ⟨-, -, closed⟩ := completed.close 0 (absorb_of_waits waits)
        obtain ⟨expr, more, phrase, formed⟩ := ih closed
        refine ⟨expr, ⟨.rightParen, 0⟩ :: more, ?_, List.forall_mem_cons.mpr ⟨trivial, formed⟩⟩
        rwa [List.append_assoc] at phrase

/-- Where an operand is due, a zero is one. -/
theorem Begun.viable [CharacterNames] (begun : Begun frames read) : Viable read := by
  let zero : Numeral := ⟨['0'], none, none⟩
  have digits : ∀ c ∈ zero.whole, Text.isDigit c = true := by
    intro c member
    obtain rfl := List.mem_singleton.mp member
    rfl
  have formedZero : zero.Formed := ⟨digits, nofun, .inl (List.cons_ne_nil _ _), nofun⟩
  have denotes : Denotes (.number zero) (.int 0) := .integer rfl (by decide)
  obtain ⟨-, -, completed⟩ := reading_some begun (@Spells.literal _ _ 0 _ denotes) trivial id id
  obtain ⟨expr, more, phrase, formed⟩ := completed.viable
  refine ⟨expr, ⟨.number zero, 0⟩ :: more, ?_, List.forall_mem_cons.mpr ⟨formedZero, formed⟩⟩
  rwa [List.append_assoc] at phrase

theorem Reading.viable [CharacterNames] (reading : Reading frames read complete) : Viable read := by
  cases complete with
  | none => exact Begun.viable reading
  | some operand => exact reading.2.2.viable

/-- A text whose tokens begin with viable ones can go on after them so that it is an expression. -/
theorem Viable.exists_accepted [CharacterNames] (viable : Viable own)
    (scanned : Tokens.ofLine text = .ok tokens) (begins : tokens.list = own ++ rest) :
    ∃ accepted, Accepted accepted ∧ own <+: accepted.list := by
  obtain ⟨expr, more, phrase, formed⟩ := viable
  obtain ⟨list, scannedList, rfl⟩ := Run.map_eq_ok.mp scanned
  obtain rfl : list = own ++ rest := begins
  obtain ⟨front, back, -, goesOn⟩ := Tokens.scanFrom_front scannedList
  let longer := front ++ ' ' :: spelledOut (more.map Token.symbol)
  obtain ⟨later, scannedLater, same⟩ := Tokens.scanFrom_spelledOut longer (1 + front.length + 1)
    (List.forall_mem_map.mpr formed)
  have scannedLonger : Tokens.ofLine longer = .ok ⟨own ++ later, longer.length + 1⟩ := by
    rw [Tokens.ofLine, goesOn longer _ later scannedLater]
    rfl
  have symbols : (own ++ later).map Token.symbol = (own ++ more).map Token.symbol := by
    rw [List.map_append, List.map_append, same]
  obtain ⟨whole, phraseWhole, -⟩ := phrase.exists_of_symbols symbols
  have parsed := parse_eq_ok_iff_phrase.mpr ⟨_, scannedLonger, phraseWhole⟩
  exact ⟨_, ⟨longer, whole, scannedLonger, parsed⟩, List.prefix_append own later⟩

/-! ## Where it is stuck -/

/-- Tokens after which the reader is stuck in front of the next begin no phrase together with it,
    wherever they stand. -/
theorem not_phrase_of_stuck [CharacterNames] {frames' : List Frame} {complete' : Option Expr}
    (stuck : Stuck frames' complete' rest.head?)
    (reads : ∀ more, more.head? = rest.head? →
      readOn stop [] none (own ++ more) = readOn stop frames' complete' more)
    (phrase : Phrase expr list) {later : List Symbol}
    (same : list.map Token.symbol = own.map Token.symbol ++ later) :
    later.head? ≠ rest.head?.map Token.symbol := by
  intro next
  -- The later tokens begin with the one that the reader is stuck at, column included.
  obtain ⟨more, symbols, first⟩ : ∃ more : List Token,
      more.map Token.symbol = later ∧ more.head? = rest.head? := by
    cases rest with
    | nil => exact ⟨[], (List.head?_eq_none_iff.mp next).symm, rfl⟩
    | cons token others =>
      obtain ⟨behind, rfl⟩ := List.head?_eq_some_iff.mp next
      refine ⟨token :: behind.map (Token.mk · 0), ?_, rfl⟩
      simp [Function.comp_def]
  have alike : (own ++ more).map Token.symbol = list.map Token.symbol := by
    rw [List.map_append, symbols, same]
  obtain ⟨other, phraseOther, -⟩ := phrase.exists_of_symbols alike
  have whole : readOn stop frames' complete' more = .ok (other, []) := by
    rw [← reads more first]
    exact phraseOther.read
  rw [← first] at stuck
  rcases stuck.readOn stop with ⟨cause, -, refused⟩ | ⟨left, expr, stays⟩
  · rw [refused] at whole
    cases whole
  · rw [stays] at whole
    exact left (Prod.mk.inj (Except.ok.inj whole)).2

/-! ## Texts -/

theorem formal_of_malformed (malformed : Malformed fault) : Formal fault.cause := by
  obtain ⟨form, sentence⟩ := malformed
  rw [Fault.message] at sentence
  rw [Fault.word] at form
  generalize fault.cause = cause at form sentence
  cases cause with
  | unexpectedToken => exact .inl rfl
  | groupingParenthesis => exact .inr rfl
  | invalidCharacter c =>
    exact absurd sentence (not_or.mpr ⟨message_invalidCharacter_ne c (by decide),
      message_invalidCharacter_ne c (by decide)⟩)
  | unterminatedString | invalidString | missingCount | unknownStatement =>
    exact absurd sentence (by decide)
  | undefinedName | signedOperand | operands | countNotInteger | divisionByZero | outOfRange
  | integerTooLarge | quotientTooLarge | textTooLong | tooManyIterations | tooManySteps =>
    simp [Cause.kind, FaultKind.word] at form

/-- A text is refused where its tokens are read, or for a token that is left over. -/
theorem read_of_refused [CharacterNames] {failure : Failure}
    (scanned : Tokens.ofLine text = .ok tokens) (refused : parse text = .error failure) :
    Expr.read tokens.stop tokens.list = .error failure ∨
      ∃ expr left, Expr.read tokens.stop tokens.list = .ok (expr, left) ∧ left ≠ [] ∧
        failure = unexpected tokens.stop left := by
  rw [parse, scanned] at refused
  rcases bind_eq_error.mp refused with fails | ⟨_, ⟨⟩, later⟩
  · cases fails
  · rcases bind_eq_error.mp later with fails | ⟨⟨expr, left⟩, returns, last⟩
    · exact .inl fails
    · refine .inr ⟨expr, left, returns, ?_⟩
      cases left with
      | nil => cases last
      | cons token rest => exact ⟨List.cons_ne_nil token rest, (Except.error.inj last).symm⟩

/-- Where a text is refused for its form, the reader is stuck in front of a token, which is that
    of the fault, and reads as far as there whatever comes after this token. -/
theorem stuck_of_refused [CharacterNames] (scanned : Tokens.ofLine text = .ok tokens)
    (refused : parse text = .error (.fault fault)) (formal : Formal fault.cause) :
    ∃ own rest frames complete, tokens.list = own ++ rest ∧ Reading frames own complete ∧
      Stuck frames complete rest.head? ∧ fault.column = some (nextColumn tokens.stop rest) ∧
      ∀ more, more.head? = rest.head? →
        readOn tokens.stop [] none (own ++ more) = readOn tokens.stop frames complete more := by
  have outcome := read_of_refused scanned refused
  rw [Expr.read] at outcome
  have short : FallsShort (readOn tokens.stop [] none tokens.list) := by
    rcases outcome with fails | ⟨expr, left, returns, remains, -⟩
    · rw [fails]
      exact fun other => other fault rfl formal
    · rw [returns]
      exact remains
  have reading : Reading [] [] none := Begun.nil
  obtain ⟨own, rest, frames, complete, whole, readingOwn, stuck, reads⟩ :=
    reaches_stuck tokens.stop reading short
  refine ⟨own, rest, frames, complete, whole, readingOwn, stuck, ?_, reads⟩
  rw [whole, reads rest rfl] at outcome
  rcases stuck.readOn tokens.stop with ⟨cause, -, returns⟩ | ⟨-, found, returns⟩
  · simp only [returns, Except.error.injEq, reduceCtorEq, false_and, exists_false, or_false] at outcome
    obtain rfl := Failure.fault.inj outcome
    rfl
  · rw [returns] at outcome
    rcases outcome with fails | ⟨_, left, same, -, place⟩
    · cases fails
    · obtain ⟨-, rfl⟩ := Prod.mk.inj (Except.ok.inj same)
      obtain rfl := Failure.fault.inj place
      rfl

/-- Marks that begin with others and a next one are those of symbols that begin so. -/
theorem exists_of_marks {front symbols : List Symbol} {next : Option Symbol}
    (begins : front.map some ++ [next] <+: symbols.map some ++ [none]) :
    ∃ later, symbols = front ++ later ∧ later.head? = next := by
  induction front generalizing symbols with
  | nil =>
    cases symbols with
    | nil => exact ⟨[], rfl, (List.cons_prefix_cons.mp begins).1.symm⟩
    | cons symbol rest => exact ⟨symbol :: rest, rfl, (List.cons_prefix_cons.mp begins).1.symm⟩
  | cons first front ih =>
    cases symbols with
    | nil => exact absurd (List.cons_prefix_cons.mp begins).1 (Option.some_ne_none first)
    | cons symbol rest =>
      obtain ⟨same, others⟩ := List.cons_prefix_cons.mp begins
      obtain ⟨later, rfl, ahead⟩ := ih others
      exact ⟨later, by rw [Option.some.inj same, List.cons_append], ahead⟩

theorem fst_marks (tokens : Tokens) :
    tokens.marks.map Prod.fst = (tokens.list.map Token.symbol).map some ++ [none] := by
  simp [Tokens.marks, Token.mark, Function.comp_def]

/-- A text that is refused because of its form is refused at one of its tokens or at its end. The
    tokens before this one are, columns included, the first ones of a text that is an expression;
    together with it their symbols are the first ones of no such text. -/
theorem parse_refused_first [CharacterNames] (scanned : Tokens.ofLine text = .ok tokens)
    (refused : parse text = .error (.fault fault)) (malformed : Malformed fault) :
    tokens.stop = text.length + 1 ∧
      ∃ before mark after, tokens.marks = before ++ mark :: after ∧ fault.column = some mark.2 ∧
        (∃ accepted, Accepted accepted ∧ before <+: accepted.marks) ∧
        ∀ accepted, Accepted accepted →
          ¬ (before ++ [mark]).map Prod.fst <+: accepted.marks.map Prod.fst := by
  obtain ⟨own, rest, frames, complete, whole, reading, stuck, column, reads⟩ :=
    stuck_of_refused scanned refused (formal_of_malformed malformed)
  refine ⟨?_, own.map Token.mark, (rest.head?.map Token.symbol, nextColumn tokens.stop rest),
    (rest.map Token.mark ++ [(none, tokens.stop)]).tail, ?_, column, ?_, ?_⟩
  · obtain ⟨list, -, rfl⟩ := Run.map_eq_ok.mp scanned
    rfl
  · rw [Tokens.marks, whole, List.map_append, List.append_assoc]
    cases rest with
    | nil => rfl
    | cons token others => rfl
  · obtain ⟨accepted, isAccepted, begins⟩ := reading.viable.exists_accepted scanned whole
    exact ⟨accepted, isAccepted, (begins.map _).trans (List.prefix_append _ _)⟩
  · rintro accepted ⟨other, expr, scannedOther, parsed⟩ begins
    obtain ⟨_, same, phrase⟩ := parse_eq_ok_iff_phrase.mp parsed
    obtain rfl := Except.ok.inj (scannedOther.symm.trans same)
    have symbols : (own.map Token.symbol).map some ++ [rest.head?.map Token.symbol] <+:
        (accepted.list.map Token.symbol).map some ++ [none] := by
      rw [← fst_marks]
      simpa [Token.mark, Function.comp_def] using begins
    obtain ⟨later, sameSymbols, ahead⟩ := exists_of_marks symbols
    exact not_phrase_of_stuck stuck reads phrase sameSymbols ahead

section
attribute [local instance] CharacterNames.unnamed

/-- In a call with a product without its first factor, the refused token is the operator. -/
theorem parse_refused_factor :
    let text := "input(*2)".toList
    let tokens : Tokens := ⟨[⟨.name "input", 1⟩, ⟨.leftParen, 6⟩, ⟨.operator .mul, 7⟩,
      ⟨.number ⟨['2'], none, none⟩, 8⟩, ⟨.rightParen, 9⟩], 10⟩
    tokens.stop = text.length + 1 ∧
      ∃ before mark after, tokens.marks = before ++ mark :: after ∧ some 7 = some mark.2 ∧
        (∃ accepted, Accepted accepted ∧ before <+: accepted.marks) ∧
        ∀ accepted, Accepted accepted →
          ¬ (before ++ [mark]).map Prod.fst <+: accepted.marks.map Prod.fst := by
  intro text tokens
  have scanned : Tokens.ofLine text = .ok tokens := by decide +kernel
  have refused : parse text = .error (.fault (Fault.atColumn .unexpectedToken 7)) := by
    rw [parse, scanned]
    rfl
  exact parse_refused_first scanned refused ⟨rfl, .inl rfl⟩

end

end Expr

end StepTrace
