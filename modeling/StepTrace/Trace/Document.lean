import StepTrace.Trace

/-!
# Traces as documents

A response as a value, in the form in which it is written as JSON: flags that are
not set are left out.
-/

namespace StepTrace

/-- The fields of a step that only some steps have. -/
def Event.fields : Event → List (Text × Value)
  | .printed output => [("output", .str output)]
  | .awaiting target _ => [("requiresInput", .bool true), ("inputVariable", .str target)]
  | .failed _ => [("isError", .bool true)]
  | .assigned _ _ | .looping _ | .iteration _ _ => []

/-- A step as a value. -/
def Step.toValue (step : Step) : Value :=
  .dict <| ("lineNumber", .int step.line) :: ("description", .str step.description) ::
    ("variables", .dict step.scope) :: step.event.fields

/-- A response as a value. -/
def Response.toValue (response : Response) : Value :=
  .dict [("trace", .list (response.trace.map Step.toValue)),
    ("error", response.error.elim .null fun fault => .str fault.describe)]

end StepTrace
