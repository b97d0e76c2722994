import StepTrace.Answer
import StepTrace.Expr.Eval
import StepTrace.Json.Printer
import StepTrace.Outline
import StepTrace.Text.Identifier
import StepTrace.Trace

/-!
# Runs

A run follows the outline of a program from a line on and records its steps. It
stops at the first failure and at the first question; a question is answered by a
new run that starts after it with the variables of the question. The number of
steps of a run and the number of times a loop runs are limited. A fault of the
program ends the run in a step of its own; only an abort leaves no trace.
-/

namespace StepTrace

/-- The limits of a run. -/
structure Limits where
  steps : Int
  loop : Int
  deriving DecidableEq, Repr

/-- The limits where none are given. -/
def Limits.standard : Limits := ⟨10000, 10000⟩

/-- How far a run has come. -/
structure State where
  scope : Scope
  /-- The steps so far, the last one first. -/
  steps : List Step
  remaining : Nat
  deriving Repr

/-- How a part of a run ends. -/
inductive Ending where
  | done
  | paused
  | failed (fault : Fault)
  deriving DecidableEq, Repr

/-- The end of a part of a run with the state it leaves, or an abort. -/
abbrev Outcome := Except Abort (Ending × State)

/-- Goes on from the state of a part that lets the next one come. -/
def Outcome.andThen (first : Outcome) (next : State → Outcome) : Outcome :=
  match first with
  | .ok (.done, state) => next state
  | stopped => stopped

namespace State

/-- Records a step of a line. -/
def record (state : State) (line : Nat) (event : Event) : State :=
  { state with
    steps := ⟨line, event, state.scope⟩ :: state.steps
    remaining := state.remaining - 1 }

/-- Ends the run with a failure. A fault is a step of its own, for which there is
    always room; an abort leaves no trace. -/
def refuse (state : State) (line : Nat) : Failure → Outcome
  | .fault fault =>
    .ok (.failed fault, { state with steps := ⟨line, .failed fault, state.scope⟩ :: state.steps })
  | .abort abort => .error abort

/-- Sets a variable. -/
def assign (state : State) (target : String) (value : Value) : State :=
  { state with scope := state.scope.set target value }

end State

namespace Run

/-! ## Loops -/

/-- The integer that a value counts as: an integer itself or a floating-point
    number without a fractional part. -/
def integer? : Value → Option Int
  | .int n => some n
  | .float x => if x.isIntegral then some x.truncate else none
  | _ => none

/-- A fault whose message shows these integers. It is no fault when one of them has
    too many digits to be shown. -/
def showing (shown : List Int) (cause : Cause) : Failure :=
  if shown.all fun n => (Text.decimal? n).isSome then .fault (Fault.bare cause)
  else .abort .textTooLong

/-- How many times a loop runs whose count is a value. The count is shown by the
    header or by the refusal, unless the loop does not run. -/
def loopCount (limits : Limits) (countText : List Char) (value : Value) : Except Failure Nat :=
  match integer? value with
  | none => .error (.fault (Fault.bare (.countNotInteger (String.ofList countText))))
  | some n =>
    if limits.loop < n then
      .error (showing [limits.loop, n] (.tooManyIterations limits.loop n))
    else if n ≤ 0 then .ok 0
    else if (Text.decimal? n).isSome then .ok n.toNat
    else .error (.abort .textTooLong)

/-- The failure of a step over the limit. -/
def stepLimit (limits : Limits) : Failure := showing [limits.steps] (.tooManySteps limits.steps)

/-! ## Single statements -/

/-- The value of an argument, which is an empty text when it is left out. -/
def argument (scope : Scope) (expr : Option Expr) : Except Fault Value :=
  expr.elim (.ok (.str "")) (Expr.eval scope)

/-- The text that is shown, or the failure when there is too much of it. -/
def shownOr (tooLong : Failure) (text : Option Text) : Except Failure Text :=
  text.elim (.error tooLong) .ok

/-- What a statement does in a scope by itself: the event that its line records and
    the variables after it. A prompt or a loop count that has too many digits leaves
    no trace; everything else that goes wrong is a fault. -/
def effect (limits : Limits) (scope : Scope) : Statement → Except Failure (Event × Scope)
  | .question target prompt => do
    let value ← (argument scope prompt).mapError .fault
    let text ← shownOr (.abort .textTooLong) value.printed?
    return (.awaiting target text, scope)
  | .assignment target expr => do
    let value ← (expr.eval scope).mapError .fault
    let text ← shownOr (.fault (Fault.bare .textTooLong)) (Json.write? Json.inline value)
    return (.assigned target text, scope.set target value)
  | .print expr => do
    let value ← (argument scope expr).mapError .fault
    let text ← shownOr (.fault (Fault.bare .textTooLong)) value.printed?
    return (.printed text, scope)
  | .loop _ count countText => do
    let value ← (count.eval scope).mapError .fault
    let times ← loopCount limits countText value
    return (.looping times, scope)

/-! ## Outlines -/

/-- Runs the body of a loop so many times, the first time with the given index.
    Each time sets the variable, records it, and runs the body from there. -/
def iterate (limits : Limits) (line : Nat) (var : String) (body : State → Outcome) :
    Nat → Nat → State → Outcome
  | 0, _, state => .ok (.done, state)
  | times + 1, index, state =>
    let bound := state.assign var (.int index)
    if state.remaining = 0 then bound.refuse line (stepLimit limits)
    else
      Outcome.andThen (body (bound.record line (.iteration var index)))
        (iterate limits line var body times (index + 1))

/-- Runs a line that reads as a statement, where there is room for its step. The
    body is that of a loop. Where there is room for the header alone, the first time
    that fails takes the place of the header. -/
def perform (limits : Limits) (line : Nat) (body : State → Outcome) (statement : Statement)
    (state : State) : Outcome :=
  match effect limits state.scope statement with
  | .error failure => state.refuse line failure
  | .ok (event, scope) =>
    let after := State.record { state with scope } line event
    match statement, event with
    | .question _ _, _ => .ok (.paused, after)
    | .loop var _ _, .looping times =>
      if 0 < times ∧ state.remaining = 1 then state.refuse line (stepLimit limits)
      else iterate limits line var body times 0 after
    | _, _ => .ok (.done, after)

mutual

/-- Runs an item. -/
def item (limits : Limits) : Item → State → Outcome
  | .mk line reading body, state =>
    if state.remaining = 0 then state.refuse line (stepLimit limits)
    else
      match reading with
      | .error failure => state.refuse line failure
      | .ok statement =>
        perform limits line (fun state => items limits body state) statement state

/-- Runs items one after the other, as long as each lets the next one come. -/
def items (limits : Limits) : List Item → State → Outcome
  | [], state => .ok (.done, state)
  | first :: rest, state => Outcome.andThen (item limits first state) (items limits rest)

end

theorem andThen_assoc (first : Outcome) (second third : State → Outcome) :
    (first.andThen second).andThen third = first.andThen fun state => (second state).andThen third := by
  rcases first with abort | ⟨_ | _ | _, state⟩ <;> rfl

/-- Items are run in two parts, the second only when the first lets it come. -/
theorem items_append (limits : Limits) (first second : List Item) (state : State) :
    items limits (first ++ second) state =
      (items limits first state).andThen (items limits second) := by
  induction first generalizing state with
  | nil => rfl
  | cons item rest ih =>
    rw [List.cons_append, items, items, andThen_assoc]
    exact congrArg _ (funext ih)

/-! ## Programs -/

/-- The response to the end of a run. -/
def respond (ending : Ending) (state : State) : Response :=
  { trace := state.steps.reverse
    error := match ending with
      | .failed fault => some fault
      | _ => none }

/-- The scope at the start of a run: an answer is set before the first line. -/
def entryScope (scope : Scope) : Option Answer → Except Abort Scope
  | none => .ok scope
  | some answer =>
    if Text.isIdentifier answer.target.toList then
      .ok (scope.set answer.target (Answer.value answer.text))
    else .error (.invalidVariable answer.target)

/-- The state at the start of a run. -/
def entryState (limits : Limits) (scope : Scope) : State := ⟨scope, [], limits.steps.toNat⟩

end Run

/-- Runs a program without its first `start` lines. -/
def run [CharacterNames] (limits : Limits) (code : List Char) (scope : Scope) (start : Int)
    (answer : Option Answer) : Except Abort Response := do
  if start < 0 then throw .negativeStart
  let scope ← Run.entryScope scope answer
  let lines := (Source.lines code).drop start.toNat
  let (ending, state) ← Run.items limits (outline lines) (Run.entryState limits scope)
  return Run.respond ending state

end StepTrace
