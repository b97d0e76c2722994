import StepTrace.Proofs.Evaluation

/-!
# The type of an expression

The kinds of its literals and variables alone determine the kind of the value that an expression
has, if it has one (`Expr.kind?`). An expression with a type fails for a divisor of zero or a
result that cannot be represented, and where its type is that of integers not even for these;
one without a type always fails (`Expr.eval_typeSound`).
-/

namespace StepTrace

open Run (bind_eq_ok bind_eq_error)

/-! ## Types -/

/-- The kind of what an operation makes of two kinds: integers make an integer, except for a
    quotient, and numbers otherwise make a floating-point number. -/
def Operator.resultKind? (op : Operator) (left right : ValueKind) : Option ValueKind :=
  if left.isNumeric = true ∧ right.isNumeric = true then
    some (if left = .int ∧ right = .int ∧ op ≠ .div then .int else .float)
  else none

namespace Expr

/-- The type of an expression, if it has one. -/
def kind? (scope : Scope) : Expr → Option ValueKind
  | literal _ value => some value.kind
  | name _ text => (scope.get? text).map Value.kind
  | unary _ _ operand => (operand.kind? scope).filter ValueKind.isNumeric
  | binary _ op left right => do op.resultKind? (← left.kind? scope) (← right.kind? scope)
  | input _ => some .str
  | prompt _ text => text.kind? scope

/-- What an expression of integers is in ordinary arithmetic; zero where it is none. -/
def integer (scope : Scope) : Expr → Int
  | literal _ (.int n) => n
  | name _ text =>
    match scope.get? text with
    | some (.int n) => n
    | _ => 0
  | unary _ .plus operand => operand.integer scope
  | unary _ .minus operand => -operand.integer scope
  | binary _ .add left right => left.integer scope + right.integer scope
  | binary _ .sub left right => left.integer scope - right.integer scope
  | binary _ .mul left right => left.integer scope * right.integer scope
  | prompt _ text => text.integer scope
  | _ => 0

/-- All variables of an expression are set. -/
def Bound (scope : Scope) (expr : Expr) : Prop :=
  ∀ column (text : String), .name column text ∈ expr.postorder → (scope.get? text).isSome = true

end Expr

/-! ## Kinds of results -/

namespace Number

variable {op : Operator} {left right result : Number}

theorem kind_signed (sign : Sign) (number : Number) :
    (number.signed sign).toValue.kind = number.toValue.kind := by
  cases sign <;> cases number <;> rfl

private theorem finite_eq_ok {x : Binary64} (returns : finite x = .ok result) :
    result.toValue.kind = .float := by
  unfold finite at returns
  split at returns
  · exact Except.ok.inj returns ▸ rfl
  · cases returns

private theorem kind_of_combineFloats
    (returns : (do finite (combine op (← left.toBinary64) (← right.toBinary64))) = .ok result) :
    result.toValue.kind = .float := by
  obtain ⟨x, -, returns⟩ := bind_eq_ok.mp returns
  obtain ⟨y, -, returns⟩ := bind_eq_ok.mp returns
  exact finite_eq_ok returns

/-- The kind of a result depends on the kinds of the operands alone. -/
theorem resultKind?_of_apply (returns : apply op left right = .ok result) :
    op.resultKind? left.toValue.kind right.toValue.kind = some result.toValue.kind := by
  unfold apply at returns
  split at returns
  · cases returns
  · cases left with
    | float x =>
      rw [kind_of_combineFloats returns]
      cases right <;> rfl
    | int m =>
      cases right with
      | float y =>
        rw [kind_of_combineFloats returns]
        rfl
      | int n =>
        cases op with
        | add | sub | mul => exact Except.ok.inj returns ▸ rfl
        | div =>
          cases quotient : Binary64.ofQuotient? m n with
          | none => simp [combineInts, quotient] at returns
          | some x =>
            have kind := finite_eq_ok (x := x) (by simpa [combineInts, quotient] using returns)
            rw [kind]
            rfl

end Number

theorem Operator.resultKind?_eq_some {op : Operator} {left right kind : ValueKind}
    (joins : op.resultKind? left right = some kind) :
    left.isNumeric = true ∧ right.isNumeric = true ∧
      (kind = .int → left = .int ∧ right = .int ∧ op ≠ .div) := by
  unfold resultKind? at joins
  split at joins
  · next numeric =>
    refine ⟨numeric.1, numeric.2, ?_⟩
    rintro rfl
    split at joins
    · assumption
    · cases joins
  · cases joins

namespace Expr

variable {scope : Scope} {expr : Expr} {value : Value} {kind : ValueKind} {fault : Fault}

/-! ## Soundness -/

/-- A value has the type of its expression. -/
theorem kind?_of_eval (valued : expr.eval scope = .ok value) :
    expr.kind? scope = some value.kind := by
  induction expr generalizing value with
  | literal column written => exact Except.ok.inj valued ▸ rfl
  | name column text =>
    unfold eval at valued
    split at valued
    · next held found =>
      obtain rfl := Except.ok.inj valued
      rw [kind?, found, Option.map_some]
    · cases valued
  | unary column sign operand ih =>
    obtain ⟨number, valuedOperand, rfl⟩ := eval_unary_eq_ok.mp valued
    rw [kind?, ih valuedOperand, number.kind_signed sign, Option.filter_some,
      if_pos number.isNumeric_kind]
  | binary column op left right ihLeft ihRight =>
    obtain ⟨x, y, result, valuedLeft, valuedRight, applied, rfl⟩ := eval_binary_eq_ok.mp valued
    rw [kind?, ihLeft valuedLeft, ihRight valuedRight]
    exact Number.resultKind?_of_apply applied
  | input column => exact Except.ok.inj valued ▸ rfl
  | prompt column text ih => exact ih valued

private theorem exists_number (numeric : value.kind.isNumeric = true) :
    ∃ number, value.number? = some number := by
  rw [Value.isNumeric_kind] at numeric
  exact Option.isSome_iff_exists.mp numeric

/-- An expression with a type fails for a divisor of zero or a result that cannot be
    represented: its operands have types, and those of its operations are numeric. -/
theorem kind_of_typed_fault (typed : expr.kind? scope = some kind)
    (fails : expr.eval scope = .error fault) :
    fault.cause.kind = .division ∨ fault.cause.kind = .overflow := by
  induction expr generalizing kind fault with
  | literal | input => cases fails
  | name column text =>
    obtain ⟨held, found, -⟩ := Option.map_eq_some_iff.mp typed
    simp [eval, found] at fails
  | prompt column text ih => exact ih typed fails
  | unary column sign operand ih =>
    obtain ⟨typedOperand, numeric⟩ := Option.filter_eq_some_iff.mp typed
    rcases bind_eq_error.mp fails with inner | ⟨value, valued, outer⟩
    · exact ih typedOperand inner
    · obtain rfl := Option.some.inj ((kind?_of_eval valued).symm.trans typedOperand)
      obtain ⟨number, isNumber⟩ := exists_number numeric
      simp [isNumber] at outer
  | binary column op left right ihLeft ihRight =>
    obtain ⟨leftKind, typedLeft, typed⟩ := Option.bind_eq_some_iff.mp typed
    obtain ⟨rightKind, typedRight, joins⟩ := Option.bind_eq_some_iff.mp typed
    obtain ⟨numericLeft, numericRight, -⟩ := Operator.resultKind?_eq_some joins
    rcases bind_eq_error.mp fails with first | ⟨leftValue, valuedLeft, later⟩
    · exact ihLeft typedLeft first
    · rcases bind_eq_error.mp later with second | ⟨rightValue, valuedRight, last⟩
      · exact ihRight typedRight second
      · obtain rfl := Option.some.inj ((kind?_of_eval valuedLeft).symm.trans typedLeft)
        obtain rfl := Option.some.inj ((kind?_of_eval valuedRight).symm.trans typedRight)
        obtain ⟨x, isLeft⟩ := exists_number numericLeft
        obtain ⟨y, isRight⟩ := exists_number numericRight
        cases applied : Number.apply op x y with
        | ok result => simp [isLeft, isRight, applied] at last
        | error cause =>
          obtain rfl : Fault.atColumn cause column = fault := by
            simpa [isLeft, isRight, applied] using last
          exact (Number.apply_eq_error applied).imp And.right fun beyond => beyond.2.2

/-- An expression of integers has the value that ordinary arithmetic gives it. -/
theorem eval_of_int (typed : expr.kind? scope = some .int) :
    expr.eval scope = .ok (.int (expr.integer scope)) := by
  induction expr with
  | literal column written =>
    cases written with
    | int n => rfl
    | float | str | bool | null | list | dict => cases typed
  | name column text =>
    obtain ⟨held, found, isInt⟩ := Option.map_eq_some_iff.mp typed
    cases held with
    | int n => simp [eval, integer, found]
    | float | str | bool | null | list | dict => cases isInt
  | unary column sign operand ih =>
    obtain ⟨typedOperand, -⟩ := Option.filter_eq_some_iff.mp typed
    refine eval_unary_eq_ok.mpr ⟨.int (operand.integer scope), ih typedOperand, ?_⟩
    cases sign <;> rfl
  | binary column op left right ihLeft ihRight =>
    obtain ⟨leftKind, typedLeft, typed⟩ := Option.bind_eq_some_iff.mp typed
    obtain ⟨rightKind, typedRight, joins⟩ := Option.bind_eq_some_iff.mp typed
    obtain ⟨rfl, rfl, noQuotient⟩ := (Operator.resultKind?_eq_some joins).2.2 rfl
    refine eval_binary_eq_ok.mpr ⟨.int (left.integer scope), .int (right.integer scope),
      .int ((binary column op left right).integer scope), ihLeft typedLeft, ihRight typedRight, ?_,
      rfl⟩
    cases op with
    | add | sub | mul => rfl
    | div => exact absurd rfl noQuotient
  | input => cases typed
  | prompt column text ih => exact ih typed

/-- Without a type an expression has no value. -/
theorem exists_fault_of_kind?_eq_none (illTyped : expr.kind? scope = none) :
    ∃ fault, expr.eval scope = .error fault := by
  cases found : expr.eval scope with
  | error fault => exact ⟨fault, rfl⟩
  | ok value =>
    rw [kind?_of_eval found] at illTyped
    cases illTyped

theorem bound_of_eval (valued : expr.eval scope = .ok value) : expr.Bound scope := by
  intro column text member
  obtain ⟨own, has⟩ := nodes_valued valued _ member
  unfold eval at has
  split at has
  · next found => rw [found]; rfl
  · cases has

/-- What the type of an expression and its nodes say of its value in a scope. -/
structure TypeSound (scope : Scope) (expr : Expr) : Prop where
  /-- With a type it has a value of that type, or fails for a divisor of zero or a result that
      cannot be represented. -/
  typed : ∀ kind, expr.kind? scope = some kind →
    (∃ value, expr.eval scope = .ok value ∧ value.kind = kind) ∨
      ∃ fault, expr.eval scope = .error fault ∧
        (fault.cause.kind = .division ∨ fault.cause.kind = .overflow)
  /-- With the type of integers it has the value of ordinary arithmetic. -/
  exact : expr.kind? scope = some .int → expr.eval scope = .ok (.int (expr.integer scope))
  /-- Without a type it fails. -/
  illTyped : expr.kind? scope = none → ∃ fault, expr.eval scope = .error fault
  /-- With a variable that is not set it fails. -/
  unbound : ¬ expr.Bound scope → ∃ fault, expr.eval scope = .error fault
  /-- A fault is of the kind and at the column of the first node that fails. -/
  located : ∀ fault, expr.eval scope = .error fault →
    ∃ node, FirstFails scope expr node fault.cause.kind ∧ fault.column = some node.column

/-- Evaluation respects types and is strict. -/
theorem eval_typeSound (scope : Scope) (expr : Expr) : TypeSound scope expr where
  typed := by
    intro kind typed
    cases found : expr.eval scope with
    | ok value =>
      obtain rfl := Option.some.inj ((kind?_of_eval found).symm.trans typed)
      exact .inl ⟨value, rfl, rfl⟩
    | error fault => exact .inr ⟨fault, rfl, kind_of_typed_fault typed found⟩
  exact := eval_of_int
  illTyped := exists_fault_of_kind?_eq_none
  unbound := by
    intro unbound
    cases found : expr.eval scope with
    | ok value => exact absurd (bound_of_eval found) unbound
    | error fault => exact ⟨fault, rfl⟩
  located := fun _ => firstFails_of_eval

/-- An operand that is no number comes before the quotient by zero that holds it, and one after
    it comes too late. -/
example : (binary 7 .add (binary 3 .div (literal 1 (.int 1)) (literal 5 (.int 0)))
      (unary 9 .minus (literal 10 (.str "a")))).eval [] =
    .error (Fault.atColumn .divisionByZero 3) := by decide

end Expr

end StepTrace
