import StepTrace.Run

/-!
# What a statement does

When a statement has its effect, and when it keeps the whole run from coming about.
-/

namespace StepTrace.Run

variable {α β ε ε' : Type}

/-! ## Steps that may fail -/

theorem bind_eq_ok {first : Except ε α} {next : α → Except ε β} {result : β} :
    (first >>= next) = .ok result ↔ ∃ a, first = .ok a ∧ next a = .ok result := by
  cases first with
  | error failure => simp [bind, Except.bind]
  | ok a => simp [bind, Except.bind]

theorem bind_eq_error {first : Except ε α} {next : α → Except ε β} {failure : ε} :
    (first >>= next) = .error failure ↔
      first = .error failure ∨ ∃ a, first = .ok a ∧ next a = .error failure := by
  cases first with
  | error other => simp [bind, Except.bind]
  | ok a => simp [bind, Except.bind]

theorem map_eq_ok {result : Except ε α} {f : α → β} {b : β} :
    result.map f = .ok b ↔ ∃ a, result = .ok a ∧ f a = b := by
  cases result with
  | error failure => simp [Except.map]
  | ok a => simp [Except.map]

theorem map_eq_error {result : Except ε α} {f : α → β} {failure : ε} :
    result.map f = .error failure ↔ result = .error failure := by
  cases result <;> simp [Except.map]

theorem mapError_eq_ok {result : Except ε α} {wrap : ε → ε'} {a : α} :
    result.mapError wrap = .ok a ↔ result = .ok a := by
  cases result with
  | error failure => exact ⟨nofun, nofun⟩
  | ok value =>
    show (Except.ok value : Except ε' α) = .ok a ↔ (Except.ok value : Except ε α) = .ok a
    rw [Except.ok.injEq, Except.ok.injEq]

theorem mapError_fault_ne_abort {result : Except Fault α} {abort : Abort} :
    result.mapError Failure.fault ≠ .error (.abort abort) := by
  cases result <;> nofun

theorem shownOr_eq_ok {tooLong : Failure} {text : Option Text} {shown : Text} :
    shownOr tooLong text = .ok shown ↔ text = some shown := by
  cases text <;> simp [shownOr]

theorem shownOr_eq_error {tooLong failure : Failure} {text : Option Text} :
    shownOr tooLong text = .error failure ↔ text = none ∧ tooLong = failure := by
  cases text <;> simp [shownOr]

/-! ## Parts one after the other -/

theorem andThen_of_early {ending : Ending} {after : State} {next : State → Outcome}
    (early : ending ≠ .done) : Outcome.andThen (.ok (ending, after)) next = .ok (ending, after) := by
  cases ending with
  | done => exact absurd rfl early
  | paused | failed => rfl

/-- The second part comes after the first one is done, or the first one is where the run ends. -/
theorem andThen_eq_ok {first : Outcome} {next : State → Outcome} {ending : Ending} {after : State} :
    first.andThen next = .ok (ending, after) ↔
      (∃ middle, first = .ok (.done, middle) ∧ next middle = .ok (ending, after)) ∨
        first = .ok (ending, after) ∧ ending ≠ .done := by
  rcases first with abort | ⟨found, middle⟩
  · simp [Outcome.andThen]
  · by_cases done : found = .done
    · subst done
      simp only [Outcome.andThen, Except.ok.injEq, Prod.mk.injEq, true_and, exists_eq_left']
      refine ⟨.inl, fun either => either.elim id ?_⟩
      rintro ⟨⟨same, -⟩, early⟩
      exact absurd same.symm early
    · simp only [andThen_of_early done, Except.ok.injEq, Prod.mk.injEq, done, false_and,
        exists_false, false_or]
      exact ⟨fun same => ⟨same, same.1 ▸ done⟩, And.left⟩

/-- What is refused ends in a failure. -/
theorem refuse_ne {state after : State} {number : Nat} {failure : Failure} {ending : Ending}
    (early : ∀ fault, ending ≠ .failed fault) :
    state.refuse number failure ≠ .ok (ending, after) := by
  cases failure with
  | abort abort => simp [State.refuse]
  | fault fault =>
    intro refused
    obtain ⟨same, -⟩ := Prod.mk.inj (Except.ok.inj refused)
    exact early fault same.symm

/-! ## Loop counts -/

/-- A count that is taken is the integer that the value counts as, at most the limit. -/
theorem loopCount_eq_ok {limits : Limits} {text : List Char} {value : Value} {times : Nat}
    (counted : loopCount limits text value = .ok times) :
    ∃ n, integer? value = some n ∧ n ≤ limits.loop ∧ times = n.toNat := by
  unfold loopCount at counted
  cases found : integer? value with
  | none => simp [found] at counted
  | some n =>
    simp only [found] at counted
    refine ⟨n, rfl, ?_⟩
    by_cases exceeds : limits.loop < n
    · simp [exceeds] at counted
    · by_cases none : n ≤ 0
      · simp only [exceeds, none, if_true, if_false, Except.ok.injEq] at counted
        exact ⟨by omega, by omega⟩
      · by_cases short : (Text.decimal? n).isSome
        · simp only [exceeds, none, short, if_true, if_false, Except.ok.injEq] at counted
          exact ⟨by omega, by omega⟩
        · simp [exceeds, none, short] at counted

/-- An integer with too many digits to be shown. -/
def TooLong (n : Int) : Prop := Text.decimal? n = none

theorem showing_eq_abort {shown : List Int} {cause : Cause} {abort : Abort} :
    showing shown cause = .abort abort ↔ abort = .textTooLong ∧ ∃ n ∈ shown, TooLong n := by
  unfold showing TooLong
  by_cases short : shown.all fun n => (Text.decimal? n).isSome
  · simp only [short, if_true, reduceCtorEq, false_iff]
    rintro ⟨-, n, member, long⟩
    have := List.all_eq_true.mp short n member
    simp [long] at this
  · simp only [short, Bool.false_eq_true, if_false, Failure.abort.injEq]
    have long : ∃ n ∈ shown, Text.decimal? n = none := by simpa using short
    exact ⟨fun same => ⟨same.symm, long⟩, fun same => same.1.symm⟩

/-- A fault that shows integers is that of its cause. -/
theorem showing_eq_fault {shown : List Int} {cause : Cause} {fault : Fault}
    (faults : showing shown cause = .fault fault) : fault = Fault.bare cause := by
  unfold showing at faults
  split at faults
  · exact (Failure.fault.inj faults).symm
  · cases faults

/-- A loop count that keeps a run from coming about: the header or the refusal of the
    loop would show an integer that is too long. -/
def Uncountable (limits : Limits) (n : Int) : Prop :=
  limits.loop < n ∧ (TooLong limits.loop ∨ TooLong n) ∨ n ≤ limits.loop ∧ 0 < n ∧ TooLong n

/-- A count within the limit is taken, unless it has too many digits to be shown. -/
theorem loopCount_of_integer {limits : Limits} {value : Value} {n : Int} (text : List Char)
    (counts : integer? value = some n) (allowed : n ≤ limits.loop)
    (countable : ¬ Uncountable limits n) : loopCount limits text value = .ok n.toNat := by
  unfold loopCount
  simp only [counts, if_neg (Int.not_lt.mpr allowed)]
  by_cases none : n ≤ 0
  · have nothing : n.toNat = 0 := by omega
    rw [if_pos none, nothing]
  · have short : (Text.decimal? n).isSome = true :=
      Option.isSome_iff_ne_none.mpr fun long => countable (.inr ⟨allowed, Int.not_le.mp none, long⟩)
    rw [if_neg none, if_pos short]

theorem loopCount_eq_abort {limits : Limits} {text : List Char} {value : Value} {abort : Abort} :
    loopCount limits text value = .error (.abort abort) ↔
      abort = .textTooLong ∧ ∃ n, integer? value = some n ∧ Uncountable limits n := by
  unfold loopCount Uncountable
  cases integer? value with
  | none => simp
  | some n =>
    simp only [Option.some.injEq, exists_eq_left']
    by_cases exceeds : limits.loop < n
    · simp [exceeds, showing_eq_abort, Int.not_le.mpr exceeds]
    · by_cases none : n ≤ 0
      · simp [exceeds, none, Int.not_lt.mpr none]
      · by_cases short : (Text.decimal? n).isSome
        · have readable : ¬ TooLong n := fun long => by simp [TooLong] at long; simp [long] at short
          simp [exceeds, none, short, readable]
        · have long : TooLong n := by simpa [TooLong] using short
          simp [exceeds, none, short, long, Int.not_lt.mp exceeds, Int.not_le.mp none, eq_comm]

/-- The count of a loop that runs can be shown, as its header does. -/
theorem loopCount_shown {limits : Limits} {text : List Char} {value : Value} {times : Nat}
    (counted : loopCount limits text value = .ok times) (runs : 0 < times) :
    (Text.decimal? times).isSome = true := by
  obtain ⟨n, counts, allowed, rfl⟩ := loopCount_eq_ok counted
  have positive : 0 < n := by omega
  rw [Int.toNat_of_nonneg (Int.le_of_lt positive)]
  refine Option.isSome_iff_ne_none.mpr fun long => ?_
  have aborts := (@loopCount_eq_abort limits text value .textTooLong).mpr
    ⟨rfl, n, counts, .inr ⟨allowed, positive, long⟩⟩
  rw [counted] at aborts
  cases aborts

/-! ## Effects -/

variable {limits : Limits} {before after : Scope} {event : Event}

theorem effect_question {target : String} {prompt : Option Expr} :
    effect limits before (.question target prompt) = .ok (event, after) ↔
      ∃ value, argument before prompt = .ok value ∧ ∃ text, value.printed? = some text ∧
        event = .awaiting target text ∧ after = before := by
  simp only [effect, bind_eq_ok, mapError_eq_ok, shownOr_eq_ok, pure, Except.pure,
    Except.ok.injEq, Prod.mk.injEq, @eq_comm _ event, @eq_comm _ after]

theorem effect_assignment {target : String} {expr : Expr} :
    effect limits before (.assignment target expr) = .ok (event, after) ↔
      ∃ value, expr.eval before = .ok value ∧
        ∃ shown, Json.write? Json.inline value = some shown ∧
        event = .assigned target shown ∧ after = before.set target value := by
  simp only [effect, bind_eq_ok, mapError_eq_ok, shownOr_eq_ok, pure, Except.pure,
    Except.ok.injEq, Prod.mk.injEq, @eq_comm _ event, @eq_comm _ after]

theorem effect_print {expr : Option Expr} :
    effect limits before (.print expr) = .ok (event, after) ↔
      ∃ value, argument before expr = .ok value ∧ ∃ text, value.printed? = some text ∧
        event = .printed text ∧ after = before := by
  simp only [effect, bind_eq_ok, mapError_eq_ok, shownOr_eq_ok, pure, Except.pure,
    Except.ok.injEq, Prod.mk.injEq, @eq_comm _ event, @eq_comm _ after]

theorem effect_loop {var : String} {count : Expr} {text : List Char} :
    effect limits before (.loop var count text) = .ok (event, after) ↔
      ∃ value, count.eval before = .ok value ∧ ∃ times, loopCount limits text value = .ok times ∧
        event = .looping times ∧ after = before := by
  simp only [effect, bind_eq_ok, mapError_eq_ok, pure, Except.pure, Except.ok.injEq,
    Prod.mk.injEq, @eq_comm _ event, @eq_comm _ after]

/-- What the line of a statement leaves in a trace. -/
inductive Leaves : Statement → Event → Prop
  | question {target : String} {text : Text} {prompt : Option Expr} :
      Leaves (.question target prompt) (.awaiting target text)
  | assignment {target : String} {shown : Text} {expr : Expr} :
      Leaves (.assignment target expr) (.assigned target shown)
  | print {expr : Option Expr} {text : Text} : Leaves (.print expr) (.printed text)
  | loop {var : String} {count : Expr} {text : List Char} {times : Nat} :
      Leaves (.loop var count text) (.looping times)

theorem leaves_of_effect {statement : Statement}
    (does : effect limits before statement = .ok (event, after)) : Leaves statement event := by
  cases statement with
  | question =>
    obtain ⟨-, -, -, -, rfl, -⟩ := effect_question.mp does
    exact .question
  | assignment =>
    obtain ⟨-, -, -, -, rfl, -⟩ := effect_assignment.mp does
    exact .assignment
  | print =>
    obtain ⟨-, -, -, -, rfl, -⟩ := effect_print.mp does
    exact .print
  | loop =>
    obtain ⟨-, -, -, -, rfl, -⟩ := effect_loop.mp does
    exact .loop

/-- A statement whose effect would show an integer that is too long, where that is no
    fault of the program: in a prompt, in the header of a loop or in its refusal. -/
def Unshowable (limits : Limits) (before : Scope) : Statement → Prop
  | .question _ prompt => ∃ value, argument before prompt = .ok value ∧ value.printed? = none
  | .loop _ count _ =>
    ∃ value n, count.eval before = .ok value ∧ integer? value = some n ∧ Uncountable limits n
  | .assignment _ _ | .print _ => False

/-- Exactly these statements leave no trace. -/
theorem effect_eq_abort {statement : Statement} {abort : Abort} :
    effect limits before statement = .error (.abort abort) ↔
      abort = .textTooLong ∧ Unshowable limits before statement := by
  cases statement with
  | question target prompt =>
    simp only [effect, bind_eq_error, mapError_eq_ok, mapError_fault_ne_abort, false_or,
      shownOr_eq_error, Unshowable, pure, Except.pure, reduceCtorEq, and_false, exists_false,
      or_false, Failure.abort.injEq]
    constructor
    · rintro ⟨value, valued, long, rfl⟩
      exact ⟨rfl, value, valued, long⟩
    · rintro ⟨rfl, value, valued, long⟩
      exact ⟨value, valued, long, rfl⟩
  | loop var count text =>
    simp only [effect, bind_eq_error, mapError_eq_ok, mapError_fault_ne_abort, false_or,
      loopCount_eq_abort, Unshowable, pure, Except.pure, reduceCtorEq, and_false, exists_false,
      or_false]
    constructor
    · rintro ⟨value, valued, rfl, n, counts, long⟩
      exact ⟨rfl, value, n, valued, counts, long⟩
    · rintro ⟨rfl, value, n, valued, counts, long⟩
      exact ⟨value, valued, rfl, n, counts, long⟩
  | assignment target expr =>
    simp [effect, bind_eq_error, mapError_fault_ne_abort, shownOr_eq_error, Unshowable, pure,
      Except.pure]
  | print expr =>
    simp [effect, bind_eq_error, mapError_fault_ne_abort, shownOr_eq_error, Unshowable, pure,
      Except.pure]

end StepTrace.Run
