import StepTrace.Fault
import StepTrace.Scope
import StepTrace.Value.Equality

/-!
# Traces

What a run records: a step for everything that it does, with the line that did it
and the variables after it. A run that stops before the end of its program has
recorded so in its last step: it failed, or it waits for an answer.
-/

namespace StepTrace

/-- What a step did. -/
inductive Event where
  | assigned (target : String) (shown : Text)
  | printed (output : Text)
  | awaiting (target : String) (prompt : Text)
  | looping (count : Nat)
  /-- A loop sets its variable for the next time, counted from zero. -/
  | iteration (var : String) (index : Nat)
  | failed (fault : Fault)
  deriving DecidableEq, Repr

/-- A step of a run. -/
structure Step where
  line : Nat
  event : Event
  /-- The variables after the step; for a failure, before what failed. -/
  scope : Scope
  deriving DecidableEq, Repr

/-- What is shown instead of an empty prompt. -/
def placeholder : String := "Awaiting user input..."

namespace Step

/-- The sentence that describes a step. -/
def description (step : Step) : Text :=
  match step.event with
  | .assigned target shown => ("Assign " : Text) ++ shown ++ (" to '" ++ target ++ "'" : String)
  | .printed _ => "Printing output"
  | .awaiting _ prompt => if prompt.isEmpty then placeholder else prompt
  | .looping count => "Starting a loop that will run " ++ shownInt count ++ " times."
  | .iteration var index =>
    "Loop iteration " ++ shownInt (index + 1) ++ ". Set '" ++ var ++ "' to " ++ shownInt index ++ "."
  | .failed fault => fault.describe

/-- The text that a step printed. -/
def output? (step : Step) : Option Text :=
  match step.event with
  | .printed output => some output
  | _ => none

/-- Whether a step is a failure. -/
def isError (step : Step) : Bool :=
  match step.event with
  | .failed _ => true
  | _ => false

/-- The variable whose value a step asks for. -/
def asked? (step : Step) : Option String :=
  match step.event with
  | .awaiting target _ => some target
  | _ => none

end Step

/-- How a run came to its end. -/
inductive Status where
  | completed
  | paused
  | failed
  deriving DecidableEq, Repr

/-- The word for a status. -/
def Status.word : Status → String
  | completed => "completed"
  | paused => "paused"
  | failed => "failed"

/-- Where a paused run is taken up again. -/
structure Continuation where
  scope : Scope
  /-- The number of lines that are not run again. -/
  start : Nat
  target : String
  deriving DecidableEq, Repr

/-- What a run returns. -/
structure Response where
  trace : List Step
  error : Option Fault
  deriving DecidableEq, Repr

namespace Response

/-- The status that a response shows: a fault is a failure, and otherwise the
    last step tells whether a value is asked for. -/
def status (response : Response) : Status :=
  if response.error.isSome then .failed
  else if (response.trace.getLast?.bind Step.asked?).isSome then .paused
  else .completed

/-- Where a paused run goes on: after the line that asks. -/
def continuation? (response : Response) : Option Continuation :=
  if response.status = .paused then do
    let step ← response.trace.getLast?
    let target ← step.asked?
    return ⟨step.scope, step.line, target⟩
  else none

/-- The texts that were printed. -/
def outputs (response : Response) : List Text := response.trace.filterMap Step.output?

end Response

end StepTrace
