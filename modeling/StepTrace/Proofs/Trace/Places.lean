import StepTrace.Proofs.Machine.Records
import StepTrace.Proofs.Trace.Explanation

/-!
# Where steps stand

Every step of a run stands at a line of the program after those that are not run, whether it
fails or not and however deep in loops it was made.
-/

namespace StepTrace

open Machine

variable {limits : Limits} {lines : List Line} {before : Scope} {start : Nat} {config : Config}

/-- A step stands at a line after the first `start` ones. -/
structure Step.Placed (lines : List Line) (start : Int) (step : Step) : Prop where
  later : start < step.line
  inside : step.line ≤ lines.length

theorem Step.placed_of_getElem? {place : Nat} {line : Line} {event : Event} {scope : Scope}
    (started : start ≤ place) (here : lines[place]? = some line) :
    Step.Placed lines start ⟨place + 1, event, scope⟩ where
  later := by
    show (start : Int) < ((place + 1 : Nat) : Int)
    omega
  inside := (List.getElem?_eq_some_iff.mp here).1

/-- The line of a step that the machine has recorded justifies it, so it is one of the lines. -/
theorem Machine.Reaches.placed [CharacterNames]
    (reaches : Reaches limits lines (entry start before) config) :
    ∀ step ∈ config.trace, step.Placed lines start := by
  intro step member
  obtain ⟨earlier, later, whole⟩ := List.append_of_mem member
  have inside : earlier ++ [step] <+: config.trace := ⟨later, by simp [whole]⟩
  have justified := reaches.accounted earlier step inside
  exact ⟨justified.later, justified.inside⟩

private theorem placed_concat {trace : List Step} {last : Step}
    (placed : ∀ step ∈ trace, step.Placed lines start) (placedLast : last.Placed lines start) :
    ∀ step ∈ trace ++ [last], step.Placed lines start :=
  List.forall_mem_append.mpr ⟨placed, by simpa using placedLast⟩

private theorem Machine.Stops.placed [CharacterNames] {result : Except Abort Response}
    {response : Response} (reaches : Reaches limits lines (entry start before) config)
    (stops : Stops limits lines config result) (returns : result = .ok response) :
    ∀ step ∈ response.trace, step.Placed lines start := by
  have sound := reaches.sound
  cases stops with
  | finished =>
    obtain rfl := Except.ok.inj returns
    exact reaches.placed
  | asked comes =>
    obtain rfl := Except.ok.inj returns
    exact placed_concat reaches.placed (Step.placed_of_getElem? sound.started comes.here)
  | full comes | unread comes | undone comes | crowded comes =>
    obtain ⟨fault, -, rfl⟩ := Config.refuse_eq_ok.mp returns
    exact placed_concat reaches.placed (Step.placed_of_getElem? sound.started comes.here)
  | @cut loop outer ends =>
    obtain ⟨loops, -⟩ := Config.bodyEnd?_eq_some.mp ends
    have stands := sound.stands loop (by simp [loops])
    obtain ⟨count, text, line, here, -⟩ := stands.header
    obtain ⟨fault, -, rfl⟩ := Config.refuse_eq_ok.mp returns
    exact placed_concat reaches.placed (Step.placed_of_getElem? stands.started here)

/-- Every step of a run stands at a line that the run comes to. -/
theorem run_placed [CharacterNames] {code : List Char} {scope : Scope} {start : Int}
    {answer : Option Answer}
    {response : Response} (returns : run limits code scope start answer = .ok response) :
    ∀ step ∈ response.trace, step.Placed (Source.lines code) start := by
  obtain ⟨forward, config, reaches, stops⟩ := ends_of_run_eq_ok returns
  have placed := stops.placed reaches rfl
  rwa [Int.toNat_of_nonneg forward] at placed

end StepTrace
