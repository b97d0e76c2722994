import StepTrace.Proofs.Literal

/-!
# Faults that no limit makes

Reading a line and evaluating an expression fail for many reasons, but never because a limit
was reached (`Statement.unlimited_ofLine`, `Expr.kind_of_eval`). What is limited are the
steps of a run and the times of a loop (`Run.kind_of_effect`).
-/

namespace StepTrace

/-- The kind of the fault that a failure is. -/
def Failure.kind? : Failure → Option FaultKind
  | .fault found => some found.cause.kind
  | .abort _ => none

/-- Where there is no result, it was not for a limit. -/
def Unlimited {α : Type} (result : Except Failure α) : Prop :=
  ∀ failure, result = .error failure → failure.kind? ≠ some .budget

variable {α β : Type} {stop column : Nat} {tokens : List Token} {line : List Char}

namespace Unlimited

theorem ok (a : α) : Unlimited (.ok a : Except Failure α) := nofun

theorem error {failure : Failure} (other : failure.kind? ≠ some .budget) :
    Unlimited (.error failure : Except Failure α) := by
  rintro _ ⟨⟩
  exact other

theorem form {fault : Fault} (ill : fault.cause.kind = .form) :
    Unlimited (.error (.fault fault) : Except Failure α) := by
  apply Unlimited.error
  rw [Failure.kind?, ill]
  nofun

theorem bind {first : Except Failure α} {next : α → Except Failure β} (unlimited : Unlimited first)
    (later : ∀ a, Unlimited (next a)) : Unlimited (first >>= next) := by
  intro failure fails
  rcases Run.bind_eq_error.mp fails with here | ⟨a, -, beyond⟩
  · exact unlimited failure here
  · exact later a failure beyond

theorem mapError {result : Except Fault α}
    (other : ∀ fault, result = .error fault → fault.cause.kind ≠ .budget) :
    Unlimited (result.mapError .fault) := by
  cases result with
  | ok a => exact .ok a
  | error fault => exact .error fun same => other fault rfl (Option.some.inj same)

end Unlimited

/-! ## Reading -/

/-- Characters that begin no token are faults of form. -/
theorem Tokens.kind_of_scanFrom {text : List Char} {fault : Fault}
    (fails : scanFrom line column text = .error fault) : fault.cause.kind ≠ .budget := by
  fun_induction scanFrom line column text with
  | case1 | case3 => cases fails
  | case2 _ _ _ _ ih => exact ih fails
  | case4 _ _ _ _ _ _ _ _ ih => exact ih (Run.map_eq_error.mp fails)
  | case5 _ c =>
    obtain rfl := Except.error.inj fails
    by_cases quote : isQuote c = true <;> simp [Fault.about, refusal, quote, Cause.kind]

theorem Tokens.unlimited_ofLine : Unlimited ((ofLine line).mapError .fault) := by
  apply Unlimited.mapError
  intro fault fails
  exact kind_of_scanFrom (Run.map_eq_error.mp fails)

namespace Expr

theorem unlimited_ofNumeral (numeral : Numeral) : Unlimited (ofNumeral column numeral) := by
  unfold ofNumeral
  split
  · split
    · exact .error nofun
    · exact .ok _
  · simp only
    split
    · exact .ok _
    · exact .error nofun

theorem unlimited_ofString [CharacterNames] (mark : Char) (body : List Char) :
    Unlimited (ofString column mark body) := by
  unfold ofString
  split
  · exact .ok _
  · exact .form rfl

theorem unlimited_readOn [CharacterNames] (frames : List Frame) (complete : Option Expr) :
    Unlimited (readOn stop frames complete tokens) := by
  -- Every call passes on what the calls inside it fail with.
  fun_induction readOn stop frames complete tokens with
  | case4 _ _ _ _ _ fails => exact .error (unlimited_ofNumeral _ _ fails)
  | case6 _ _ _ _ _ _ fails => exact .error (unlimited_ofString _ _ _ fails)
  | case1 _ _ _ _ _ _ ih | case3 _ _ _ _ _ _ ih | case5 _ _ _ _ _ _ _ ih | case7 _ _ _ _ _ ih
  | case9 _ _ _ _ _ ih | case11 _ _ _ _ _ _ ih | case14 _ _ _ _ _ _ _ _ ih
  | case15 _ _ _ _ _ _ _ _ ih => exact ih
  | case2 | case12 | case13 | case18 => exact .form rfl
  | case8 | case10 => exact .error (by simp [Failure.kind?, Fault.atColumn, Cause.kind])
  | case16 | case17 => exact .ok _

theorem unlimited_expectEnd : Unlimited (expectEnd stop tokens) := by
  unfold expectEnd
  split
  · exact .ok _
  · exact .form rfl

end Expr

namespace Statement

theorem unlimited_expect (symbol : Symbol) : Unlimited (expect stop symbol tokens) := by
  unfold expect
  split
  · exact .form rfl
  · split
    · exact .ok _
    · exact .form rfl

theorem unlimited_expectName : Unlimited (expectName stop tokens) := by
  unfold expectName
  split
  · exact .ok _
  · exact .form rfl

theorem unlimited_readAssignment [CharacterNames] (target : String) :
    Unlimited (readAssignment line stop target tokens) := by
  unfold readAssignment
  split
  · exact .form rfl
  · apply Unlimited.bind (Expr.unlimited_readOn _ _)
    intro part
    apply Unlimited.bind Expr.unlimited_expectEnd
    intro
    exact .ok _

theorem unlimited_readLoop [CharacterNames] : Unlimited (readLoop line stop tokens) := by
  unfold readLoop
  apply Unlimited.bind unlimited_expectName
  rintro ⟨var, afterVar⟩
  apply Unlimited.bind (unlimited_expect _)
  rintro ⟨inColumn, afterIn⟩
  apply Unlimited.bind (unlimited_expect _)
  rintro ⟨rangeColumn, afterRange⟩
  apply Unlimited.bind (unlimited_expect _)
  rintro ⟨first, inner⟩
  simp only
  split
  · exact .form rfl
  · apply Unlimited.bind (Expr.unlimited_readOn _ _)
    rintro ⟨count, afterCount⟩
    apply Unlimited.bind (unlimited_expect _)
    rintro ⟨last, afterLast⟩
    apply Unlimited.bind (unlimited_expect _)
    rintro ⟨colon, rest⟩
    apply Unlimited.bind Expr.unlimited_expectEnd
    intro
    exact .ok _

theorem unlimited_readPrint [CharacterNames] : Unlimited (readPrint stop tokens) := by
  unfold readPrint
  split
  · apply Unlimited.bind Expr.unlimited_expectEnd
    intro
    exact .ok _
  · apply Unlimited.bind (Expr.unlimited_readOn _ _)
    intro part
    apply Unlimited.bind (unlimited_expect _)
    intro closing
    apply Unlimited.bind Expr.unlimited_expectEnd
    intro
    exact .ok _

/-- No line is refused for a limit. -/
theorem unlimited_ofLine [CharacterNames] : Unlimited (ofLine line) := by
  unfold ofLine
  apply Unlimited.bind Tokens.unlimited_ofLine
  intro tokens
  split
  · exact unlimited_readAssignment _
  · exact unlimited_readLoop
  · exact unlimited_readPrint
  · exact .form rfl

end Statement

/-! ## Evaluating -/

namespace Number

variable {cause : Cause}

private theorem kind_of_finite {x : Binary64} (refused : finite x = .error cause) :
    cause.kind ≠ .budget := by
  unfold finite at refused
  split at refused
  · cases refused
  · obtain rfl := Except.error.inj refused
    nofun

private theorem kind_of_toBinary64 {number : Number} (refused : number.toBinary64 = .error cause) :
    cause.kind ≠ .budget := by
  cases number with
  | float => cases refused
  | int n =>
    unfold toBinary64 at refused
    cases nearest : Binary64.ofInt? n with
    | some x => simp [nearest] at refused
    | none =>
      obtain rfl : Cause.integerTooLarge = cause := by simpa [nearest] using refused
      nofun

private theorem kind_of_combineInts {op : Operator} {m n : Int}
    (refused : combineInts op m n = .error cause) : cause.kind ≠ .budget := by
  cases op with
  | add | sub | mul => cases refused
  | div =>
    unfold combineInts at refused
    cases quotient : Binary64.ofQuotient? m n with
    | some x => exact kind_of_finite (by simpa [quotient] using refused)
    | none =>
      obtain rfl : Cause.quotientTooLarge = cause := by simpa [quotient] using refused
      nofun

theorem kind_of_apply {op : Operator} {left right : Number}
    (refused : apply op left right = .error cause) : cause.kind ≠ .budget := by
  unfold apply at refused
  split at refused
  · obtain rfl := Except.error.inj refused
    nofun
  · split at refused
    · exact kind_of_combineInts refused
    · rcases Run.bind_eq_error.mp refused with first | ⟨x, -, later⟩
      · exact kind_of_toBinary64 first
      · rcases Run.bind_eq_error.mp later with second | ⟨y, -, last⟩
        · exact kind_of_toBinary64 second
        · exact kind_of_finite last

end Number

theorem Expr.kind_of_eval {scope : Scope} {expr : Expr} {fault : Fault}
    (fails : expr.eval scope = .error fault) : fault.cause.kind ≠ .budget := by
  induction expr generalizing fault with
  | literal | input => cases fails
  | name column text =>
    unfold Expr.eval at fails
    split at fails
    · cases fails
    · obtain rfl := Except.error.inj fails
      nofun
  | prompt column text ih => exact ih fails
  | unary column sign operand ih =>
    rcases Run.bind_eq_error.mp fails with inner | ⟨value, -, outer⟩
    · exact ih inner
    · split at outer
      · cases outer
      · obtain rfl := Except.error.inj outer
        nofun
  | binary column op left right ihLeft ihRight =>
    rcases Run.bind_eq_error.mp fails with first | ⟨leftValue, -, later⟩
    · exact ihLeft first
    · rcases Run.bind_eq_error.mp later with second | ⟨rightValue, -, last⟩
      · exact ihRight second
      · split at last
        · split at last
          · cases last
          · next cause refused =>
            obtain rfl := Except.error.inj last
            exact Number.kind_of_apply refused
        · obtain rfl := Except.error.inj last
          nofun

/-! ## Statements -/

namespace Run

variable {limits : Limits} {scope : Scope} {failure : Failure}

theorem unlimited_argument (expr : Option Expr) :
    Unlimited ((argument scope expr).mapError .fault) := by
  apply Unlimited.mapError
  intro fault fails
  cases expr with
  | none => cases fails
  | some expr => exact Expr.kind_of_eval fails

theorem unlimited_shownOr {tooLong : Failure} (other : tooLong.kind? ≠ some .budget)
    (text : Option Text) : Unlimited (shownOr tooLong text) := by
  cases text with
  | none => exact .error other
  | some text => exact .ok text

theorem kind_of_loopCount {text : List Char} {value : Value}
    (fails : loopCount limits text value = .error failure) :
    failure.kind? ≠ some .budget ∨
      ∃ n, failure = showing [limits.loop, n] (.tooManyIterations limits.loop n) := by
  unfold loopCount at fails
  split at fails
  · obtain rfl := Except.error.inj fails
    exact .inl nofun
  · next n _ =>
    split at fails
    · exact .inr ⟨n, (Except.error.inj fails).symm⟩
    · split at fails
      · cases fails
      · split at fails
        · cases fails
        · obtain rfl := Except.error.inj fails
          exact .inl nofun

/-- The one limit that a statement by itself may reach is that of the times of a loop. -/
theorem kind_of_effect {statement : Statement}
    (fails : effect limits scope statement = .error failure) :
    failure.kind? ≠ some .budget ∨
      ∃ n, failure = showing [limits.loop, n] (.tooManyIterations limits.loop n) := by
  cases statement with
  | question target prompt =>
    refine .inl ((unlimited_argument prompt).bind (fun value => ?_) failure fails)
    exact (unlimited_shownOr (by nofun) _).bind fun text => .ok _
  | assignment target expr =>
    refine .inl ((unlimited_argument (some expr)).bind (fun value => ?_) failure fails)
    exact (unlimited_shownOr (by nofun) _).bind fun text => .ok _
  | print expr =>
    refine .inl ((unlimited_argument expr).bind (fun value => ?_) failure fails)
    exact (unlimited_shownOr (by nofun) _).bind fun text => .ok _
  | loop var count text =>
    rcases bind_eq_error.mp fails with evaluating | ⟨value, -, later⟩
    · exact .inl (unlimited_argument (some count) failure evaluating)
    · rcases bind_eq_error.mp later with counting | ⟨times, -, returned⟩
      · exact kind_of_loopCount counting
      · cases returned

end Run

end StepTrace
