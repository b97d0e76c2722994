import StepTrace.Expr.Eval
import StepTrace.Proofs.Effect

/-!
# What makes an expression fail

An expression has no value because of one of its nodes, which has none although its operands
have theirs: a name that is not set, an operand that is no number, a divisor of zero or a result
that cannot be represented (`Expr.Fails`). The fault is that of the first such node, operands
before what joins them and from left to right (`Expr.firstFails_of_eval`).
-/

namespace StepTrace

open Run (bind_eq_ok bind_eq_error)

/-- Arithmetic is done on values of this kind. -/
def ValueKind.isNumeric : ValueKind → Bool
  | int | float => true
  | str | bool | null | list | dict => false

theorem Value.isNumeric_kind {value : Value} : value.kind.isNumeric = value.number?.isSome := by
  cases value <;> rfl

theorem Number.isNumeric_kind (number : Number) : number.toValue.kind.isNumeric = true := by
  cases number <;> rfl

/-! ## Operations that have no result -/

namespace Number

variable {op : Operator} {left right result : Number} {cause : Cause}

/-- A quotient of zero. -/
def DividesByZero (op : Operator) (right : Number) : Prop := op = .div ∧ right.isZero = true

/-- No finite number is the result. For integers only a quotient comes to that; otherwise an
    integer among the operands is beyond all finite numbers, or the result is. -/
def Overflows (op : Operator) : Number → Number → Prop
  | int m, int n => op = .div ∧ ∀ x, Binary64.ofQuotient? m n = some x → x.isFinite = false
  | left, right => ∀ x y, left.toBinary64 = .ok x → right.toBinary64 = .ok y →
      (combine op x y).isFinite = false

private theorem finite_eq_ok_iff {x : Binary64} :
    finite x = .ok result ↔ x.isFinite = true ∧ result = .float x := by
  unfold finite
  by_cases isFinite : x.isFinite = true <;> simp [isFinite, eq_comm]

private theorem finite_eq_error {x : Binary64} (refused : finite x = .error cause) :
    x.isFinite = false ∧ cause.kind = .overflow := by
  unfold finite at refused
  split at refused
  · cases refused
  · next infinite =>
    obtain rfl := Except.error.inj refused
    exact ⟨by simpa using infinite, rfl⟩

private theorem toBinary64_eq_error {number : Number} (refused : number.toBinary64 = .error cause) :
    cause.kind = .overflow := by
  cases number with
  | float x => cases refused
  | int n =>
    unfold toBinary64 at refused
    cases nearest : Binary64.ofInt? n with
    | some x => simp [nearest] at refused
    | none =>
      obtain rfl : Cause.integerTooLarge = cause := by simpa [nearest] using refused
      rfl

private theorem combineInts_eq_error {m n : Int} (refused : combineInts op m n = .error cause) :
    Overflows op (int m) (int n) ∧ cause.kind = .overflow := by
  cases op with
  | add | sub | mul => cases refused
  | div =>
    cases quotient : Binary64.ofQuotient? m n with
    | none =>
      obtain rfl : Cause.quotientTooLarge = cause := by simpa [combineInts, quotient] using refused
      exact ⟨⟨rfl, fun x found => by simp [quotient] at found⟩, rfl⟩
    | some x =>
      obtain ⟨infinite, kind⟩ := finite_eq_error (by simpa [combineInts, quotient] using refused)
      refine ⟨⟨rfl, fun other found => ?_⟩, kind⟩
      obtain rfl := Option.some.inj (quotient.symm.trans found)
      exact infinite

private theorem combineFloats_eq_error
    (refused : (do finite (combine op (← left.toBinary64) (← right.toBinary64))) = .error cause) :
    (∀ x y, left.toBinary64 = .ok x → right.toBinary64 = .ok y →
      (combine op x y).isFinite = false) ∧ cause.kind = .overflow := by
  rcases bind_eq_error.mp refused with first | ⟨x, fromLeft, later⟩
  · exact ⟨fun x y fromLeft => by simp [first] at fromLeft, toBinary64_eq_error first⟩
  · rcases bind_eq_error.mp later with second | ⟨y, fromRight, last⟩
    · exact ⟨fun x y _ fromRight => by simp [second] at fromRight, toBinary64_eq_error second⟩
    · obtain ⟨infinite, kind⟩ := finite_eq_error last
      refine ⟨fun x' y' isLeft isRight => ?_, kind⟩
      obtain rfl := Except.ok.inj (fromLeft.symm.trans isLeft)
      obtain rfl := Except.ok.inj (fromRight.symm.trans isRight)
      exact infinite

/-- An operation is refused for a divisor of zero, or else because its result cannot be
    represented. -/
theorem apply_eq_error (refused : apply op left right = .error cause) :
    DividesByZero op right ∧ cause.kind = .division ∨
      ¬ DividesByZero op right ∧ Overflows op left right ∧ cause.kind = .overflow := by
  unfold apply at refused
  split at refused
  · next byZero =>
    obtain rfl := Except.error.inj refused
    exact .inl ⟨byZero, rfl⟩
  · next notByZero =>
    refine .inr ⟨notByZero, ?_⟩
    cases left with
    | int m =>
      cases right with
      | int n => exact combineInts_eq_error refused
      | float y => exact combineFloats_eq_error refused
    | float x => exact combineFloats_eq_error refused

private theorem not_overflows_of_combineFloats
    (returns : (do finite (combine op (← left.toBinary64) (← right.toBinary64))) = .ok result) :
    ¬ ∀ x y, left.toBinary64 = .ok x → right.toBinary64 = .ok y →
      (combine op x y).isFinite = false := by
  obtain ⟨x, fromLeft, returns⟩ := bind_eq_ok.mp returns
  obtain ⟨y, fromRight, returns⟩ := bind_eq_ok.mp returns
  intro overflows
  have isFinite := (finite_eq_ok_iff.mp returns).1
  rw [overflows x y fromLeft fromRight] at isFinite
  cases isFinite

/-- An operation that has a result neither divides by zero nor overflows. -/
theorem not_refused_of_apply (returns : apply op left right = .ok result) :
    ¬ DividesByZero op right ∧ ¬ Overflows op left right := by
  unfold apply at returns
  split at returns
  · cases returns
  · next notByZero =>
    refine ⟨notByZero, ?_⟩
    cases left with
    | int m =>
      cases right with
      | int n =>
        rintro ⟨rfl, overflows⟩
        cases quotient : Binary64.ofQuotient? m n with
        | none => simp [combineInts, quotient] at returns
        | some x =>
          have isFinite := finite_eq_ok_iff.mp (by simpa [combineInts, quotient] using returns)
          rw [overflows x quotient] at isFinite
          cases isFinite.1
      | float y => exact not_overflows_of_combineFloats returns
    | float x => exact not_overflows_of_combineFloats returns

end Number

namespace Expr

variable {scope : Scope} {expr node : Expr} {value : Value} {fault : Fault} {kind : FaultKind}

/-! ## Nodes that fail -/

/-- The nodes of an expression, operands before what joins them and from left to right. -/
def postorder : Expr → List Expr
  | literal column value => [.literal column value]
  | name column text => [.name column text]
  | unary column sign operand => operand.postorder ++ [.unary column sign operand]
  | binary column op left right =>
    left.postorder ++ right.postorder ++ [.binary column op left right]
  | input column => [.input column]
  | prompt column text => text.postorder ++ [.prompt column text]

/-- A node has no value although its operands have theirs, with the kind of its fault. -/
inductive Fails (scope : Scope) : Expr → FaultKind → Prop
  | unbound {column : Nat} {text : String} (missing : scope.get? text = none) :
      Fails scope (.name column text) .naming
  | sign {column : Nat} {sign : Sign} {operand : Expr} {value : Value}
      (valued : operand.eval scope = .ok value) (other : value.kind.isNumeric = false) :
      Fails scope (.unary column sign operand) .typing
  | operands {column : Nat} {op : Operator} {left right : Expr} {first second : Value}
      (valuedLeft : left.eval scope = .ok first) (valuedRight : right.eval scope = .ok second)
      (other : first.kind.isNumeric = false ∨ second.kind.isNumeric = false) :
      Fails scope (.binary column op left right) .typing
  | division {column : Nat} {op : Operator} {left right : Expr} {x y : Number}
      (valuedLeft : left.eval scope = .ok x.toValue) (valuedRight : right.eval scope = .ok y.toValue)
      (byZero : Number.DividesByZero op y) : Fails scope (.binary column op left right) .division
  | overflow {column : Nat} {op : Operator} {left right : Expr} {x y : Number}
      (valuedLeft : left.eval scope = .ok x.toValue) (valuedRight : right.eval scope = .ok y.toValue)
      (notByZero : ¬ Number.DividesByZero op y) (overflows : Number.Overflows op x y) :
      Fails scope (.binary column op left right) .overflow

/-- A node of an expression fails, and none of the nodes before it does. -/
def FirstFails (scope : Scope) (expr node : Expr) (kind : FaultKind) : Prop :=
  Fails scope node kind ∧ ∃ before after, expr.postorder = before ++ node :: after ∧
    ∀ earlier ∈ before, ∀ other, ¬ Fails scope earlier other

/-! ## Values of nodes -/

theorem eval_unary_eq_ok {column : Nat} {sign : Sign} {operand : Expr} :
    (unary column sign operand).eval scope = .ok value ↔
      ∃ number : Number, operand.eval scope = .ok number.toValue ∧
        value = (number.signed sign).toValue := by
  rw [eval, bind_eq_ok]
  constructor
  · rintro ⟨inner, valued, signs⟩
    split at signs
    · next number isNumber =>
      obtain rfl := Value.number?_eq_some.mp isNumber
      exact ⟨number, valued, (Except.ok.inj signs).symm⟩
    · cases signs
  · rintro ⟨number, valued, rfl⟩
    refine ⟨_, valued, ?_⟩
    rw [Value.number?_eq_some.mpr rfl]

theorem eval_binary_eq_ok {column : Nat} {op : Operator} {left right : Expr} :
    (binary column op left right).eval scope = .ok value ↔
      ∃ x y result : Number, left.eval scope = .ok x.toValue ∧ right.eval scope = .ok y.toValue ∧
        Number.apply op x y = .ok result ∧ value = result.toValue := by
  simp only [eval, bind_eq_ok]
  constructor
  · rintro ⟨first, valuedLeft, second, valuedRight, applies⟩
    split at applies
    · next x y isLeft isRight =>
      obtain rfl := Value.number?_eq_some.mp isLeft
      obtain rfl := Value.number?_eq_some.mp isRight
      split at applies
      · next result applied =>
        exact ⟨x, y, result, valuedLeft, valuedRight, applied, (Except.ok.inj applies).symm⟩
      · cases applies
    · cases applies
  · rintro ⟨x, y, result, valuedLeft, valuedRight, applied, rfl⟩
    refine ⟨_, valuedLeft, _, valuedRight, ?_⟩
    rw [Value.number?_eq_some.mpr rfl, Value.number?_eq_some.mpr rfl]
    simp only [applied]

/-- What an expression with a value is made of has values too. -/
theorem nodes_valued (valued : expr.eval scope = .ok value) :
    ∀ node ∈ expr.postorder, ∃ own, node.eval scope = .ok own := by
  induction expr generalizing value with
  | literal | name | input =>
    intro node member
    obtain rfl := List.mem_singleton.mp member
    exact ⟨value, valued⟩
  | unary column sign operand ih =>
    obtain ⟨number, valuedOperand, -⟩ := eval_unary_eq_ok.mp valued
    refine List.forall_mem_append.mpr ⟨ih valuedOperand, ?_⟩
    exact List.forall_mem_singleton.mpr ⟨value, valued⟩
  | binary column op left right ihLeft ihRight =>
    obtain ⟨x, y, -, valuedLeft, valuedRight, -⟩ := eval_binary_eq_ok.mp valued
    refine List.forall_mem_append.mpr ⟨List.forall_mem_append.mpr ?_, ?_⟩
    · exact ⟨ihLeft valuedLeft, ihRight valuedRight⟩
    · exact List.forall_mem_singleton.mpr ⟨value, valued⟩
  | prompt column text ih =>
    exact List.forall_mem_append.mpr ⟨ih valued, List.forall_mem_singleton.mpr ⟨value, valued⟩⟩

private theorem toValue_of_eval {operand : Expr} {x y : Number}
    (valued : operand.eval scope = .ok x.toValue) (again : operand.eval scope = .ok y.toValue) :
    x = y := by
  have same := Except.ok.inj (valued.symm.trans again)
  exact Option.some.inj ((Value.number?_eq_some.mpr rfl).symm.trans (Value.number?_eq_some.mpr same))

/-- A node that has a value does not fail. -/
theorem not_fails_of_eval (valued : node.eval scope = .ok value) : ¬ Fails scope node kind := by
  intro fails
  cases fails with
  | unbound missing => simp [eval, missing] at valued
  | sign valuedOperand other =>
    obtain ⟨number, asNumber, -⟩ := eval_unary_eq_ok.mp valued
    obtain rfl := Except.ok.inj (asNumber.symm.trans valuedOperand)
    simp [number.isNumeric_kind] at other
  | operands valuedLeft valuedRight other =>
    obtain ⟨x, y, -, asLeft, asRight, -⟩ := eval_binary_eq_ok.mp valued
    obtain rfl := Except.ok.inj (asLeft.symm.trans valuedLeft)
    obtain rfl := Except.ok.inj (asRight.symm.trans valuedRight)
    simp [x.isNumeric_kind, y.isNumeric_kind] at other
  | division valuedLeft valuedRight byZero =>
    obtain ⟨x, y, result, -, asRight, applied, -⟩ := eval_binary_eq_ok.mp valued
    obtain rfl := toValue_of_eval asRight valuedRight
    exact (Number.not_refused_of_apply applied).1 byZero
  | overflow valuedLeft valuedRight _ overflows =>
    obtain ⟨x, y, result, asLeft, asRight, applied, -⟩ := eval_binary_eq_ok.mp valued
    obtain rfl := toValue_of_eval asLeft valuedLeft
    obtain rfl := toValue_of_eval asRight valuedRight
    exact (Number.not_refused_of_apply applied).2 overflows

/-! ## The first node that fails -/

private theorem firstFails_self {before : List Expr} (fails : Fails scope expr kind)
    (nodes : expr.postorder = before ++ [expr])
    (valued : ∀ earlier ∈ before, ∃ value, earlier.eval scope = .ok value) :
    FirstFails scope expr expr kind := by
  refine ⟨fails, before, [], nodes, fun earlier member other => ?_⟩
  obtain ⟨value, has⟩ := valued earlier member
  exact not_fails_of_eval has

/-- The first node of an operand that fails is the first one of the whole when the nodes before
    the operand have values. -/
private theorem FirstFails.of_operand {operand : Expr} (before : List Expr) {after : List Expr}
    (first : FirstFails scope operand node kind)
    (nodes : expr.postorder = before ++ (operand.postorder ++ after))
    (valued : ∀ earlier ∈ before, ∃ value, earlier.eval scope = .ok value) :
    FirstFails scope expr node kind := by
  obtain ⟨fails, front, back, inside, none⟩ := first
  refine ⟨fails, before ++ front, back ++ after, by rw [nodes, inside]; simp, ?_⟩
  refine List.forall_mem_append.mpr ⟨fun earlier member other => ?_, none⟩
  obtain ⟨value, has⟩ := valued earlier member
  exact not_fails_of_eval has

/-- The fault of an expression is that of the first node that fails: of its kind and at its
    column. By induction on the expression; what comes before the operand with the fault has
    values. -/
theorem firstFails_of_eval (fails : expr.eval scope = .error fault) :
    ∃ node, FirstFails scope expr node fault.cause.kind ∧ fault.column = some node.column := by
  induction expr generalizing fault with
  | literal | input => cases fails
  | name column text =>
    unfold eval at fails
    split at fails
    · cases fails
    · next missing =>
      obtain rfl := Except.error.inj fails
      exact ⟨_, firstFails_self (.unbound missing) rfl (List.forall_mem_nil _), rfl⟩
  | prompt column text ih =>
    obtain ⟨node, first, place⟩ := ih fails
    exact ⟨node, first.of_operand [] rfl (List.forall_mem_nil _), place⟩
  | unary column sign operand ih =>
    rcases bind_eq_error.mp fails with inner | ⟨value, valued, outer⟩
    · obtain ⟨node, first, place⟩ := ih inner
      exact ⟨node, first.of_operand [] rfl (List.forall_mem_nil _), place⟩
    · split at outer
      · cases outer
      · next noNumber =>
        obtain rfl := Except.error.inj outer
        have other : value.kind.isNumeric = false := by rw [Value.isNumeric_kind, noNumber]; rfl
        exact ⟨_, firstFails_self (.sign valued other) rfl (nodes_valued valued), rfl⟩
  | binary column op left right ihLeft ihRight =>
    rcases bind_eq_error.mp fails with first | ⟨leftValue, valuedLeft, later⟩
    · obtain ⟨node, first, place⟩ := ihLeft first
      exact ⟨node, first.of_operand [] (List.append_assoc ..) (List.forall_mem_nil _), place⟩
    · rcases bind_eq_error.mp later with second | ⟨rightValue, valuedRight, last⟩
      · obtain ⟨node, first, place⟩ := ihRight second
        exact ⟨node, first.of_operand _ (List.append_assoc ..) (nodes_valued valuedLeft), place⟩
      · have valued : ∀ node ∈ left.postorder ++ right.postorder,
            ∃ value, node.eval scope = .ok value :=
          List.forall_mem_append.mpr ⟨nodes_valued valuedLeft, nodes_valued valuedRight⟩
        split at last
        · next x y isLeft isRight =>
          obtain rfl := Value.number?_eq_some.mp isLeft
          obtain rfl := Value.number?_eq_some.mp isRight
          split at last
          · cases last
          · next cause refused =>
            obtain rfl := Except.error.inj last
            rcases Number.apply_eq_error refused with ⟨byZero, kind⟩ | ⟨notByZero, overflows, kind⟩
            · have here : Fails scope (.binary column op left right) cause.kind :=
                kind ▸ .division valuedLeft valuedRight byZero
              exact ⟨_, firstFails_self here rfl valued, rfl⟩
            · have here : Fails scope (.binary column op left right) cause.kind :=
                kind ▸ .overflow valuedLeft valuedRight notByZero overflows
              exact ⟨_, firstFails_self here rfl valued, rfl⟩
        · next noNumbers =>
          obtain rfl := Except.error.inj last
          have other : leftValue.kind.isNumeric = false ∨ rightValue.kind.isNumeric = false := by
            rw [Value.isNumeric_kind, Value.isNumeric_kind]
            cases isLeft : leftValue.number? with
            | none => exact .inl rfl
            | some x =>
              cases isRight : rightValue.number? with
              | none => exact .inr rfl
              | some y => exact (noNumbers x y isLeft isRight).elim
          exact ⟨_, firstFails_self (.operands valuedLeft valuedRight other) rfl valued, rfl⟩

end Expr

end StepTrace
