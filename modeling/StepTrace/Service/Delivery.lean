import StepTrace.Trace

/-!
# What is delivered

An answer of the service leaves out every entry whose name is reserved, in the
variables of a step as in any dictionary among their values.
-/

namespace StepTrace.Service

/-- The beginning of the names that are reserved. -/
def reservedFront : List Char := ['_', 's', 'a']

/-- A name that no answer shows. -/
def isReserved (name : Text) : Bool := (reservedFront.map .char).isPrefixOf name.points

mutual

/-- A value as it is delivered. -/
def delivered : Value → Value
  | .list items => .list (deliveredItems items)
  | .dict entries => .dict (deliveredEntries entries)
  | value => value

/-- The items of a list as they are delivered. -/
def deliveredItems : List Value → List Value
  | [] => []
  | item :: rest => delivered item :: deliveredItems rest

/-- The entries of a dictionary that are delivered. -/
def deliveredEntries : List (Text × Value) → List (Text × Value)
  | [] => []
  | (name, value) :: rest =>
    if isReserved name then deliveredEntries rest
    else (name, delivered value) :: deliveredEntries rest

end

/-- A step as it is delivered. -/
def deliveredStep (step : Step) : Step := { step with scope := deliveredEntries step.scope }

/-- A response as it is delivered. -/
def deliveredResponse (response : Response) : Response :=
  { response with trace := response.trace.map deliveredStep }

end StepTrace.Service
