import StepTrace.Proofs.Numeral
import StepTrace.Proofs.Statement.Shapes
import StepTrace.Service

/-!
# Presentable values

A value is presentable when it can be written as strict JSON: its floating-point numbers are
finite, and its integers have no more digits than the limit. What a line writes and what an
answer is taken for is presentable. An expression in presentable variables comes to a
presentable value or to an integer of any size, and an integer that is too long cannot be shown.
-/

namespace StepTrace

open Run (bind_eq_ok)

/-- A value that can be written as strict JSON. -/
inductive Presentable : Value → Prop
  | int {n : Int} (short : (Nat.toDigits 10 n.natAbs).length ≤ Text.digitLimit) :
      Presentable (.int n)
  | float {x : Binary64} (finite : x.isFinite = true) : Presentable (.float x)
  | str (text : Text) : Presentable (.str text)
  | bool (b : Bool) : Presentable (.bool b)
  | null : Presentable .null
  | list {items : List Value} (each : ∀ item ∈ items, Presentable item) :
      Presentable (.list items)
  | dict {entries : List (Text × Value)} (each : ∀ entry ∈ entries, Presentable entry.2) :
      Presentable (.dict entries)

/-- All variables have presentable values. -/
def Scope.Presentable (scope : Scope) : Prop := ∀ setting ∈ scope, StepTrace.Presentable setting.2

/-- All steps have presentable variables. -/
def PresentableTrace (trace : List Step) : Prop := ∀ step ∈ trace, step.scope.Presentable

/-! ## What can be written -/

/-- An integer is presentable exactly if it has a text. -/
theorem presentable_int_iff {n : Int} :
    Presentable (.int n) ↔ (Text.decimal? n).isSome = true := by
  constructor
  · rintro ⟨short⟩
    have bound := Text.natOfDigits_lt_of_length_le short
    rw [Text.natOfDigits_toDigits] at bound
    rw [Text.decimal?, if_pos bound, Option.isSome_some]
  · exact fun shown => .int (Text.length_toDigits_of_decimal? shown (Nat.le_refl _))

theorem presentable_float_iff {x : Binary64} : Presentable (.float x) ↔ x.isFinite = true :=
  ⟨fun | .float finite => finite, .float⟩

theorem presentable_list_iff {items : List Value} :
    Presentable (.list items) ↔ ∀ item ∈ items, Presentable item :=
  ⟨fun | .list each => each, .list⟩

theorem presentable_dict_iff {entries : List (Text × Value)} :
    Presentable (.dict entries) ↔ ∀ entry ∈ entries, Presentable entry.2 :=
  ⟨fun | .dict each => each, .dict⟩

namespace Service

mutual

/-- The service finds no obstacle exactly in what is presentable. -/
theorem obstacle?_eq_none_iff : ∀ value : Value, obstacle? value = none ↔ Presentable value
  | .int n => by
    rw [presentable_int_iff, obstacle?]
    split <;> simp_all
  | .float x => by
    rw [presentable_float_iff, obstacle?]
    split <;> simp_all
  | .str text => iff_of_true rfl (.str text)
  | .bool b => iff_of_true rfl (.bool b)
  | .null => iff_of_true rfl .null
  | .list items => by
    rw [presentable_list_iff, obstacle?, itemsObstacle?_eq_none_iff items]
  | .dict entries => by
    rw [presentable_dict_iff, obstacle?, entriesObstacle?_eq_none_iff entries]

theorem itemsObstacle?_eq_none_iff :
    ∀ items : List Value, itemsObstacle? items = none ↔ ∀ item ∈ items, Presentable item
  | [] => by simp [itemsObstacle?]
  | item :: rest => by
    rw [itemsObstacle?, Option.or_eq_none_iff, obstacle?_eq_none_iff item,
      itemsObstacle?_eq_none_iff rest, List.forall_mem_cons]

theorem entriesObstacle?_eq_none_iff :
    ∀ entries : List (Text × Value),
      entriesObstacle? entries = none ↔ ∀ entry ∈ entries, Presentable entry.2
  | [] => by simp [entriesObstacle?]
  | (_, value) :: rest => by
    rw [entriesObstacle?, Option.or_eq_none_iff, obstacle?_eq_none_iff value,
      entriesObstacle?_eq_none_iff rest, List.forall_mem_cons]

end

theorem traceObstacle?_eq_none_iff {trace : List Step} :
    traceObstacle? trace = none ↔ PresentableTrace trace := by
  simp only [traceObstacle?, List.findSome?_eq_none_iff, entriesObstacle?_eq_none_iff]
  rfl

end Service

namespace Json

variable (layout : Layout)

mutual

/-- A presentable value has a text in every layout. -/
theorem isSome_text? : ∀ (depth : Nat) (value : Value), Presentable value →
    (text? layout depth value).isSome = true
  | depth, .int n => fun presentable => by
    rw [text?, Option.isSome_map]
    exact presentable_int_iff.mp presentable
  | depth, .float x => fun _ => rfl
  | depth, .str text => fun _ => rfl
  | depth, .bool b => fun _ => rfl
  | depth, .null => fun _ => rfl
  | depth, .list items => fun presentable => by
    have each := isSome_itemTexts? (depth + 1) items (presentable_list_iff.mp presentable)
    obtain ⟨texts, written⟩ := Option.isSome_iff_exists.mp each
    rw [text?, written]
    rfl
  | depth, .dict entries => fun presentable => by
    have each := isSome_entryTexts? (depth + 1) entries (presentable_dict_iff.mp presentable)
    obtain ⟨texts, written⟩ := Option.isSome_iff_exists.mp each
    rw [text?, written]
    rfl

theorem isSome_itemTexts? : ∀ (depth : Nat) (items : List Value),
    (∀ item ∈ items, Presentable item) → (itemTexts? layout depth items).isSome = true
  | depth, [] => fun _ => rfl
  | depth, item :: rest => fun each => by
    obtain ⟨first, others⟩ := List.forall_mem_cons.mp each
    obtain ⟨text, written⟩ := Option.isSome_iff_exists.mp (isSome_text? depth item first)
    obtain ⟨texts, others⟩ := Option.isSome_iff_exists.mp (isSome_itemTexts? depth rest others)
    rw [itemTexts?, written, others]
    rfl

theorem isSome_entryTexts? : ∀ (depth : Nat) (entries : List (Text × Value)),
    (∀ entry ∈ entries, Presentable entry.2) → (entryTexts? layout depth entries).isSome = true
  | depth, [] => fun _ => rfl
  | depth, (key, value) :: rest => fun each => by
    obtain ⟨first, others⟩ := List.forall_mem_cons.mp each
    obtain ⟨text, written⟩ := Option.isSome_iff_exists.mp (isSome_text? depth value first)
    obtain ⟨texts, others⟩ := Option.isSome_iff_exists.mp (isSome_entryTexts? depth rest others)
    rw [entryTexts?, written, others]
    rfl

end

theorem exists_write? {value : Value} (presentable : Presentable value) :
    ∃ text, write? layout value = some text := by
  obtain ⟨text, written⟩ := Option.isSome_iff_exists.mp (isSome_text? layout 0 value presentable)
  exact ⟨text, written⟩

end Json

/-! ## Variables -/

theorem Scope.Presentable.get? {scope : Scope} {name : Text} {value : Value}
    (presentable : scope.Presentable) (found : scope.get? name = some value) :
    StepTrace.Presentable value := by
  induction scope with
  | nil => cases found
  | cons setting rest ih =>
    obtain ⟨first, others⟩ := List.forall_mem_cons.mp presentable
    rw [Scope.get?] at found
    split at found
    · exact Option.some.inj found ▸ first
    · exact ih others found

theorem Scope.Presentable.set {scope : Scope} {name : Text} {value : Value}
    (presentable : scope.Presentable) (shown : StepTrace.Presentable value) :
    (scope.set name value).Presentable := by
  induction scope with
  | nil => simpa [Scope.set, Scope.Presentable] using shown
  | cons setting rest ih =>
    obtain ⟨first, others⟩ := List.forall_mem_cons.mp presentable
    rw [Scope.set]
    split
    · exact List.forall_mem_cons.mpr ⟨shown, others⟩
    · exact List.forall_mem_cons.mpr ⟨first, ih others⟩

/-! ## What a line writes -/

theorem Denotes.presentable [CharacterNames] {symbol : Symbol} {value : Value}
    (denotes : Denotes symbol value) : Presentable value := by
  cases denotes with
  | integer integer short => exact presentable_int_iff.mpr (@Text.decimal?_signed false _ short)
  | float broken finite => exact .float finite
  | string decoded => exact .str _

namespace Expr

/-- The values that an expression writes, from left to right. -/
def literals : Expr → List Value
  | literal _ value => [value]
  | name _ _ | input _ => []
  | unary _ _ operand => operand.literals
  | binary _ _ left right => left.literals ++ right.literals
  | prompt _ text => text.literals

/-- Everything that an expression writes is presentable. -/
def Presentable (expr : Expr) : Prop := ∀ value ∈ expr.literals, StepTrace.Presentable value

variable {expr : Expr} {tokens : List Token}

theorem Spells.presentable [CharacterNames] (spelled : Spells expr tokens) : expr.Presentable := by
  unfold Presentable
  induction spelled with
  | literal denotes => simpa [literals] using denotes.presentable
  | name | input => simp [literals]
  | unary _ _ ih | prompt _ ih => exact ih
  | binary _ _ ihLeft ihRight =>
    intro value member
    exact (List.mem_append.mp member).elim (ihLeft value) (ihRight value)

end Expr

namespace Statement

/-- The expression of a statement. -/
def expr? : Statement → Option Expr
  | question _ prompt => prompt
  | loop _ count _ => some count
  | assignment _ value => some value
  | print value => value

variable {line : List Char} {statement : Statement}

/-- Everything that a line writes is presentable. -/
theorem presentable_of_ofLine [CharacterNames] (reads : ofLine line = .ok statement) :
    ∀ expr ∈ statement.expr?, expr.Presentable := by
  obtain ⟨tokens, -, shaped⟩ := ofLine_eq_ok_iff.mp reads
  generalize tokens.list = own at shaped
  cases shaped with
  | @question _ _ _ _ value prompt phrase call =>
    have presentable := phrase.spelled.presentable
    cases value with
    | input =>
      obtain rfl := Option.some.inj call
      simp [expr?]
    | prompt column text =>
      obtain rfl := Option.some.inj call
      exact fun _ isText => Option.some.inj isText ▸ presentable
    | literal | name | unary | binary => cases call
  | assignment phrase | loop phrase | print phrase =>
    simpa [expr?] using phrase.spelled.presentable
  | blank => simp [expr?]

end Statement

/-! ## Arithmetic -/

namespace Number

/-- A number that is no infinity and has a value; integers may have any size. -/
def IsFinite : Number → Prop
  | int _ => True
  | float x => x.isFinite = true

variable {number left right : Number} {op : Operator}

theorem IsFinite.signed (finite : number.IsFinite) (sign : Sign) : (number.signed sign).IsFinite := by
  cases sign with
  | plus => exact finite
  | minus =>
    cases number with
    | int n => trivial
    | float x =>
      cases x with
      | nan | infinite => cases finite
      | finite => rfl

private theorem isFinite_of_finite {x : Binary64} (returns : finite x = .ok number) :
    number.IsFinite := by
  unfold finite at returns
  split at returns
  · next isFinite => exact Except.ok.inj returns ▸ isFinite
  · cases returns

/-- A result is finite, whatever the operands are. -/
theorem isFinite_of_apply (returns : apply op left right = .ok number) : number.IsFinite := by
  unfold apply at returns
  split at returns
  · cases returns
  · split at returns
    · next m n _ =>
      cases op with
      | add | sub | mul => exact Except.ok.inj returns ▸ trivial
      | div =>
        cases quotient : Binary64.ofQuotient? m n with
        | none => simp [combineInts, quotient] at returns
        | some x => exact isFinite_of_finite (by simpa [combineInts, quotient] using returns)
    · obtain ⟨_, -, returns⟩ := bind_eq_ok.mp returns
      obtain ⟨_, -, returns⟩ := bind_eq_ok.mp returns
      exact isFinite_of_finite returns

end Number

/-! ## Evaluation -/

/-- A value that is presentable, or an integer that may be too long. -/
def Computable (value : Value) : Prop := Presentable value ∨ ∃ n, value = .int n

theorem Number.IsFinite.computable {number : Number} (finite : number.IsFinite) :
    Computable number.toValue := by
  cases number with
  | int n => exact .inr ⟨n, rfl⟩
  | float x => exact .inl (.float finite)

theorem Computable.isFinite {number : Number} (computable : Computable number.toValue) :
    number.IsFinite := by
  cases number with
  | int n => trivial
  | float x =>
    rcases computable with presentable | ⟨n, same⟩
    · exact presentable_float_iff.mp presentable
    · cases same

/-- An integer that is too long cannot be shown. -/
theorem Computable.presentable {value : Value} {shown : Text} (computable : Computable value)
    (written : Json.write? Json.inline value = some shown) : Presentable value := by
  rcases computable with presentable | ⟨n, rfl⟩
  · exact presentable
  · rw [Json.write?_int] at written
    obtain ⟨text, decimal, -⟩ := Option.map_eq_some_iff.mp written
    exact presentable_int_iff.mpr (by rw [decimal]; rfl)

/-- What an expression comes to in presentable variables; any part of it may be an integer that
    is too long. -/
theorem Expr.Presentable.eval {expr : Expr} {scope : Scope} {value : Value}
    (presentable : expr.Presentable) (known : scope.Presentable)
    (valued : expr.eval scope = .ok value) : Computable value := by
  induction expr generalizing value with
  | literal column written =>
    obtain rfl := Except.ok.inj valued
    exact .inl (presentable written (by simp [literals]))
  | name column text =>
    rw [Expr.eval] at valued
    split at valued
    · next held found =>
      obtain rfl := Except.ok.inj valued
      exact .inl (known.get? found)
    · cases valued
  | unary column sign operand ih =>
    obtain ⟨inner, valuedInner, valued⟩ := bind_eq_ok.mp valued
    split at valued
    · next number isNumber =>
      obtain rfl := Value.number?_eq_some.mp isNumber
      obtain rfl := Except.ok.inj valued
      exact ((ih presentable valuedInner).isFinite.signed sign).computable
    · cases valued
  | binary column op left right =>
    obtain ⟨first, -, valued⟩ := bind_eq_ok.mp valued
    obtain ⟨second, -, valued⟩ := bind_eq_ok.mp valued
    split at valued
    · split at valued
      · next number applied =>
        obtain rfl := Except.ok.inj valued
        exact (Number.isFinite_of_apply applied).computable
      · cases valued
    · cases valued
  | input column =>
    obtain rfl := Except.ok.inj valued
    exact .inl (.str "")
  | prompt column text ih => exact ih presentable valued

/-! ## Answers -/

theorem Answer.readNumber?_isFinite {text : List Char} {x : Binary64}
    (read : readNumber? text = some (.float x)) : x.isFinite = true := by
  unfold readNumber? number? at read
  dsimp only at read
  split at read
  · split at read
    · split at read <;> cases read
    · split at read
      · next finite =>
        obtain rfl := Number.float.inj (Option.some.inj read)
        exact finite
      · cases read
  · cases read

theorem Answer.value_presentable (typed : Text) : Presentable (Answer.value typed) := by
  unfold Answer.value
  cases read : typed.chars?.bind readNumber? with
  | none => exact .str typed
  | some number =>
    obtain ⟨chars, -, read⟩ := Option.bind_eq_some_iff.mp read
    cases number with
    | int n =>
      obtain ⟨negative, digits, short, rfl⟩ := readNumber?_eq_int read
      exact presentable_int_iff.mpr (Text.decimal?_signed short)
    | float x => exact .float (readNumber?_isFinite read)

end StepTrace
