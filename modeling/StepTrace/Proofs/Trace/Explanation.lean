import Mathlib.Data.List.Infix
import StepTrace.Proofs.Machine.Invariant

/-!
# Every step is explained

A step that is no failure is explained by the line of the program with its number and
by the variables of the step before it. Nothing else that a run keeps, neither the
loops that are open nor the room that is left, has a part in what a step shows.
-/

namespace StepTrace

open Machine

variable {limits : Limits} {lines : List Line} {before : Scope} {trace : List Step} {start : Nat}

/-- A statement does what a step shows in the variables before it. The header of a loop
    announces how often the loop runs, and each time of the loop sets its variable. -/
def Explains (limits : Limits) (before : Scope) (statement : Statement) (step : Step) : Prop :=
  match statement with
  | .assignment target expr =>
    ∃ value, expr.eval before = .ok value ∧
      (∃ shown, Json.write? Json.inline value = some shown ∧ step.event = .assigned target shown) ∧
      step.scope = before.set target value
  | .print expr =>
    ∃ value, Run.argument before expr = .ok value ∧
      (∃ output, value.printed? = some output ∧ step.event = .printed output) ∧
      step.scope = before
  | .question target prompt =>
    ∃ value, Run.argument before prompt = .ok value ∧
      (∃ text, value.printed? = some text ∧ step.event = .awaiting target text) ∧
      step.scope = before
  | .loop var count _ =>
    (∃ value n times, count.eval before = .ok value ∧ Run.integer? value = some n ∧
      n ≤ limits.loop ∧ ((times : Nat) : Int) = max 0 n ∧ step.event = .looping times ∧
      step.scope = before) ∨
    ∃ index, step.event = .iteration var index ∧ step.scope = before.set var (.int index)

/-- A step shows the line after the first `start` ones that did it: a line that is
    neither blank nor a comment and reads as one statement, which explains the step. -/
structure Justified [CharacterNames] (limits : Limits) (lines : List Line) (start : Int)
    (before : Scope) (step : Step) : Prop where
  later : start < step.line
  inside : step.line ≤ lines.length
  explained : ∃! statement, States lines (step.line - 1) statement ∧
    Explains limits before statement step

/-- Every step of a trace that began with some variables is justified. -/
def Accounted [CharacterNames] (limits : Limits) (lines : List Line) (start : Int) (before : Scope)
    (trace : List Step) : Prop :=
  ∀ earlier step, earlier ++ [step] <+: trace →
    Justified limits lines start (scopeAfter before earlier) step

/-- What a statement does explains the step that its line records. -/
theorem explains_effect {statement : Statement} {event : Event} {after : Scope} {number : Nat}
    (does : Run.effect limits before statement = .ok (event, after)) :
    Explains limits before statement ⟨number, event, after⟩ := by
  cases statement with
  | assignment target expr =>
    obtain ⟨value, valued, shown, written, rfl, rfl⟩ := Run.effect_assignment.mp does
    exact ⟨value, valued, ⟨shown, written, rfl⟩, rfl⟩
  | print expr =>
    obtain ⟨value, valued, text, printed, rfl, rfl⟩ := Run.effect_print.mp does
    exact ⟨value, valued, ⟨text, printed, rfl⟩, rfl⟩
  | question target prompt =>
    obtain ⟨value, valued, text, printed, rfl, rfl⟩ := Run.effect_question.mp does
    exact ⟨value, valued, ⟨text, printed, rfl⟩, rfl⟩
  | loop var count text =>
    obtain ⟨value, valued, times, counted, rfl, rfl⟩ := Run.effect_loop.mp does
    obtain ⟨n, isInteger, allowed, rfl⟩ := Run.loopCount_eq_ok counted
    exact .inl ⟨value, n, n.toNat, valued, isInteger, allowed, by omega, rfl, rfl⟩

/-- The step of a line at or after the first one is justified by its statement. -/
theorem justified_of_explains [CharacterNames] {place : Nat} {statement : Statement} {event : Event}
    {after : Scope} (started : start ≤ place) (states : States lines place statement)
    (explains : Explains limits before statement ⟨place + 1, event, after⟩) :
    Justified limits lines start before ⟨place + 1, event, after⟩ where
  later := by
    show (start : Int) < ((place + 1 : Nat) : Int)
    omega
  inside := states.inside
  explained := ⟨statement, ⟨states, explains⟩, fun _ other => other.1.unique states⟩

namespace Accounted

theorem nil [CharacterNames] : Accounted limits lines start before [] := by
  intro earlier step inside
  simp at inside

theorem concat [CharacterNames] {step : Step}
    (accounted : Accounted limits lines start before trace)
    (last : Justified limits lines start (scopeAfter before trace) step) :
    Accounted limits lines start before (trace ++ [step]) := by
  intro earlier other inside
  rcases List.prefix_concat_iff.mp inside with whole | shorter
  · obtain ⟨rfl, same⟩ := List.append_inj' whole rfl
    obtain rfl := List.singleton_inj.mp same
    exact last
  · exact accounted earlier other shorter

end Accounted

/-! ## Runs -/

private theorem Accounted.turn [CharacterNames] {config next : Config}
    (reaches : Reaches limits lines (entry start before) config)
    (accounted : Accounted limits lines start before config.trace)
    (moves : Moves limits lines config next) :
    Accounted limits lines start before next.trace := by
  have sound := reaches.sound
  have linked := sound.linked
  cases moves with
  | skip => exact accounted
  | perform comes _ does | idle comes does =>
    rw [linked] at does
    exact accounted.concat (justified_of_explains sound.started comes.states (explains_effect does))
  | begin comes does =>
    rw [linked] at does
    have header := justified_of_explains sound.started comes.states (explains_effect does)
    refine (accounted.concat header).concat ?_
    rw [scopeAfter_concat]
    exact justified_of_explains sound.started comes.states (.inr ⟨0, rfl, rfl⟩)
  | @again loop outer ends =>
    obtain ⟨loops, -⟩ := Config.bodyEnd?_eq_some.mp ends
    have stands := sound.stands loop (by simp [loops])
    obtain ⟨count, text, states⟩ := stands.header
    refine accounted.concat (justified_of_explains stands.started states (.inr ⟨loop.next, rfl, ?_⟩))
    simp only [Config.bound, linked]
  | leave => exact accounted

/-- The machine accounts for its trace wherever it comes to. -/
theorem Machine.Reaches.accounted [CharacterNames] {config : Config}
    (reaches : Reaches limits lines (entry start before) config) :
    Accounted limits lines start before config.trace :=
  reaches.invariant Accounted.turn .nil

/-- A failure is the last step of its trace. -/
private theorem accounted_refuse [CharacterNames] {config : Config} {place : Nat} {scope : Scope}
    {failure : Failure} {response : Response} {earlier : List Step} {step : Step}
    (accounted : Accounted limits lines start before config.trace)
    (refused : config.refuse place scope failure = .ok response)
    (inside : earlier ++ [step] <+: response.trace) (normal : step.isError = false) :
    Justified limits lines start (scopeAfter before earlier) step := by
  obtain ⟨fault, -, rfl⟩ := Config.refuse_eq_ok.mp refused
  rcases List.prefix_concat_iff.mp inside with whole | shorter
  · obtain ⟨-, same⟩ := List.append_inj' whole rfl
    obtain rfl := List.singleton_inj.mp same
    simp [Step.isError] at normal
  · exact accounted earlier step shorter

/-- What stops the machine leaves its trace accounted for. -/
theorem Machine.Stops.accounted [CharacterNames] {config : Config} {result : Except Abort Response}
    {response : Response} {earlier : List Step} {step : Step}
    (reaches : Reaches limits lines (entry start before) config)
    (stops : Stops limits lines config result) (returns : result = .ok response)
    (inside : earlier ++ [step] <+: response.trace) (normal : step.isError = false) :
    Justified limits lines start (scopeAfter before earlier) step := by
  have accounted := reaches.accounted
  cases stops with
  | finished =>
    obtain rfl := Except.ok.inj returns
    exact accounted earlier step inside
  | asked comes does =>
    obtain rfl := Except.ok.inj returns
    rw [reaches.sound.linked] at does
    have question := justified_of_explains reaches.sound.started comes.states (explains_effect does)
    exact accounted.concat question earlier step inside
  | full | unread | undone | crowded | cut => exact accounted_refuse accounted returns inside normal

/-- Every step of a run that is no failure is justified by the line of the program and
    the variables of the step before it, or, for the first step, by the variables that
    the run was given together with the answer. -/
theorem run_justified [CharacterNames] {code : List Char} {scope : Scope} {start : Int}
    {answer : Option Answer} {response : Response} {earlier : List Step} {step : Step}
    (returns : run limits code scope start answer = .ok response)
    (inside : earlier ++ [step] <+: response.trace) (normal : step.isError = false) :
    Justified limits (Source.lines code) start (scopeAfter (entered scope answer) earlier) step := by
  obtain ⟨forward, last, reaches, stops⟩ := ends_of_run_eq_ok returns
  have step_justified := stops.accounted reaches rfl inside normal
  rwa [Int.toNat_of_nonneg forward] at step_justified

section
attribute [local instance] CharacterNames.unnamed

/-- The step of the second line of a program, after the variable was set on the first. -/
theorem run_justified_second_line :
    run Limits.standard "x = 1\nprint(x)".toList [] 0 none =
        .ok ⟨[⟨1, .assigned "x" "1", [("x", .int 1)]⟩, ⟨2, .printed "1", [("x", .int 1)]⟩], none⟩ ∧
      Justified Limits.standard (Source.lines "x = 1\nprint(x)".toList) 0 [("x", .int 1)]
        ⟨2, .printed "1", [("x", .int 1)]⟩ := by
  have returns : run Limits.standard "x = 1\nprint(x)".toList [] 0 none =
      .ok ⟨[⟨1, .assigned "x" "1", [("x", .int 1)]⟩, ⟨2, .printed "1", [("x", .int 1)]⟩], none⟩ := by
    decide +kernel
  have whole : [⟨1, .assigned "x" "1", [("x", .int 1)]⟩] ++ [⟨2, .printed "1", [("x", .int 1)]⟩] <+:
      [⟨1, .assigned "x" "1", [("x", .int 1)]⟩, (⟨2, .printed "1", [("x", .int 1)]⟩ : Step)] :=
    List.prefix_refl _
  exact ⟨returns, run_justified returns whole rfl⟩

end

end StepTrace
