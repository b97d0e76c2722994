import StepTrace.Proofs.Machine.Records

/-!
# The step limit bounds every trace

A run records no more steps than the limit allows, and at most a failure after them. Where
this failure is one step too many, it is that of the step limit (`run_withinBudget`).
-/

namespace StepTrace

/-- The steps of a trace keep to a limit. A limit below zero allows as many as zero does. -/
structure WithinBudget (limit : Int) (trace : List Step) : Prop where
  normal : (trace.countP (!·.isError) : Int) ≤ max limit 0
  whole : (trace.length : Int) ≤ max limit 0 + 1
  exceeding : (trace.length : Int) = max limit 0 + 1 → ∃ earlier line scope,
    trace = earlier ++ [⟨line, .failed (Fault.bare (.tooManySteps limit)), scope⟩]

variable {limit : Int} {trace : List Step}

theorem WithinBudget.of_length_le (within : (trace.length : Int) ≤ max limit 0) :
    WithinBudget limit trace where
  normal := by
    have counted := List.countP_le_length (p := fun step : Step => !step.isError) (l := trace)
    omega
  whole := by omega
  exceeding := by omega

/-- The failure of the step limit is the one step for which there need not be room. -/
theorem WithinBudget.of_stepLimit {line : Nat} {scope : Scope}
    (within : (trace.length : Int) ≤ max limit 0) :
    WithinBudget limit
      (trace ++ [⟨line, .failed (Fault.bare (.tooManySteps limit)), scope⟩]) where
  normal := by
    have counted := (WithinBudget.of_length_le within).normal
    simpa [Step.isError] using counted
  whole := by
    rw [List.length_append, List.length_singleton]
    omega
  exceeding := fun _ => ⟨trace, line, scope, rfl⟩

namespace Machine

variable {limits : Limits} {lines : List Line} {config : Config} {before : Scope} {start : Nat}
  {response : Response}

private theorem withinBudget_of_room {step : Step} (room : ¬ config.Full limits) :
    WithinBudget limits.steps (config.trace ++ [step]) := by
  apply WithinBudget.of_length_le
  unfold Config.Full at room
  rw [List.length_append, List.length_singleton]
  omega

private theorem withinBudget_refuse {place : Nat} {scope : Scope} {failure : Failure}
    (room : ¬ config.Full limits) (refused : config.refuse place scope failure = .ok response) :
    WithinBudget limits.steps response.trace := by
  obtain ⟨fault, -, rfl⟩ := Config.refuse_eq_ok.mp refused
  exact withinBudget_of_room room

private theorem withinBudget_stepLimit [CharacterNames] {place : Nat} {scope : Scope}
    (reaches : Reaches limits lines (entry start before) config)
    (refused : config.refuse place scope (Run.stepLimit limits) = .ok response) :
    WithinBudget limits.steps response.trace := by
  obtain rfl := Config.refuse_stepLimit_eq_ok refused
  exact .of_stepLimit reaches.length_le

theorem Stops.withinBudget [CharacterNames] {result : Except Abort Response}
    (reaches : Reaches limits lines (entry start before) config)
    (stops : Stops limits lines config result) (returns : result = .ok response) :
    WithinBudget limits.steps response.trace := by
  cases stops with
  | finished =>
    obtain rfl := Except.ok.inj returns
    exact .of_length_le reaches.length_le
  | asked comes =>
    obtain rfl := Except.ok.inj returns
    exact withinBudget_of_room comes.room
  | unread _ room => exact withinBudget_refuse room returns
  | undone comes => exact withinBudget_refuse comes.room returns
  | full | crowded | cut => exact withinBudget_stepLimit reaches returns

end Machine

theorem run_withinBudget [CharacterNames] {limits : Limits} {code : List Char} {scope : Scope}
    {start : Int} {answer : Option Answer} {response : Response}
    (returns : run limits code scope start answer = .ok response) :
    WithinBudget limits.steps response.trace := by
  obtain ⟨-, config, reaches, stops⟩ := Machine.ends_of_run_eq_ok returns
  exact stops.withinBudget reaches rfl

end StepTrace
