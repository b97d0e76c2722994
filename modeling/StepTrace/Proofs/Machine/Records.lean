import StepTrace.Proofs.Machine.Simulation

/-!
# What the machine records

A turn only adds to the trace: steps after which the run goes on, for all of which there is
room. So nothing but the turn that stops the machine records a failure or a question, and a
run returns what the machine has recorded by then, with at most one such step after it
(`run_concludes`).
-/

namespace StepTrace

/-- Nothing comes after the step in a trace: it fails, or it asks for a value. -/
def Step.stops (step : Step) : Bool := step.isError || step.asked?.isSome

theorem Step.stops_eq_false {step : Step} :
    step.stops = false ↔ step.isError = false ∧ step.asked? = none := by
  simp [stops]

/-- What a run returns that has recorded some steps when it stops: these steps alone, or with
    a question or a failure after them. -/
inductive Concludes (trace : List Step) : Response → Prop
  | completed : Concludes trace ⟨trace, none⟩
  | paused {line : Nat} {target : String} {prompt : Text} {scope : Scope} :
      Concludes trace ⟨trace ++ [⟨line, .awaiting target prompt, scope⟩], none⟩
  | failed {line : Nat} {fault : Fault} {scope : Scope} :
      Concludes trace ⟨trace ++ [⟨line, .failed fault, scope⟩], some fault⟩

namespace Machine

variable {limits : Limits} {lines : List Line} {config next last : Config} {before : Scope}
  {start : Nat} {response : Response}

/-! ## Turns -/

private theorem stops_of_plain {statement : Statement} {number : Nat} {event : Event}
    {scope after : Scope} (plain : Plain statement)
    (does : Run.effect limits scope statement = .ok (event, after)) :
    Step.stops ⟨number, event, after⟩ = false := by
  cases Run.leaves_of_effect does with
  | assignment | print => rfl
  | question | loop => exact plain.elim

private theorem length_after_le {event : Event} {scope : Scope} (room : ¬ config.Full limits) :
    ((config.after event scope).trace.length : Int) ≤ limits.steps := by
  unfold Config.Full at room
  simp only [Config.after, List.length_append, List.length_singleton]
  omega

private theorem length_enter_le {loop : OpenLoop} {outer : List OpenLoop}
    (room : ¬ config.Full limits) : ((config.enter loop outer).trace.length : Int) ≤ limits.steps := by
  unfold Config.Full at room
  simp only [Config.enter, List.length_append, List.length_singleton]
  omega

theorem Moves.records [CharacterNames] (moves : Moves limits lines config next) :
    ∃ new, next.trace = config.trace ++ new ∧ (∀ step ∈ new, step.stops = false) ∧
      (new = [] ∨ (next.trace.length : Int) ≤ limits.steps) := by
  cases moves with
  | skip | leave => exact ⟨[], by simp, by simp, .inl rfl⟩
  | perform comes plain does =>
    refine ⟨_, rfl, ?_, .inr (length_after_le comes.room)⟩
    intro step member
    obtain rfl := List.mem_singleton.mp member
    exact stops_of_plain plain does
  | idle comes =>
    refine ⟨_, rfl, ?_, .inr (length_after_le comes.room)⟩
    intro step member
    obtain rfl := List.mem_singleton.mp member
    rfl
  | begin comes does runs room =>
    refine ⟨_, List.append_assoc .., ?_, .inr (length_enter_le room)⟩
    intro step member
    rcases List.mem_cons.mp member with rfl | later
    · rfl
    · obtain rfl := List.mem_singleton.mp later
      rfl
  | again ends more room =>
    refine ⟨_, rfl, ?_, .inr (length_enter_le room)⟩
    intro step member
    obtain rfl := List.mem_singleton.mp member
    rfl

/-! ## Wherever the machine comes to -/

theorem Reaches.trace_grows [CharacterNames] (reaches : Reaches limits lines config last) :
    config.trace <+: last.trace := by
  induction reaches with
  | refl => exact List.prefix_refl _
  | tail _ moves ih =>
    obtain ⟨new, trace, -⟩ := moves.records
    rw [trace]
    exact ih.trans (List.prefix_append ..)

/-- After every step of the machine the run goes on. -/
theorem Reaches.goesOn [CharacterNames]
    (reaches : Reaches limits lines (entry start before) config) :
    ∀ step ∈ config.trace, step.stops = false := by
  induction reaches with
  | refl => simp [entry]
  | tail _ moves ih =>
    obtain ⟨new, trace, going, -⟩ := moves.records
    rw [trace]
    intro step member
    rcases List.mem_append.mp member with earlier | recent
    · exact ih step earlier
    · exact going step recent

/-- The machine records no more steps than the limit allows. -/
theorem Reaches.length_le [CharacterNames]
    (reaches : Reaches limits lines (entry start before) config) :
    (config.trace.length : Int) ≤ max limits.steps 0 := by
  induction reaches with
  | refl => exact Int.le_max_right ..
  | tail _ moves ih =>
    obtain ⟨new, trace, -, rfl | within⟩ := moves.records
    · rw [trace, List.append_nil]
      exact ih
    · exact Int.le_trans within (Int.le_max_left ..)

/-! ## Where it stops -/

theorem Config.refuse_stepLimit_eq_ok {place : Nat} {scope : Scope}
    (refused : config.refuse place scope (Run.stepLimit limits) = .ok response) :
    response = ⟨config.trace ++
        [⟨place + 1, .failed (Fault.bare (.tooManySteps limits.steps)), scope⟩],
      some (Fault.bare (.tooManySteps limits.steps))⟩ := by
  obtain ⟨fault, shows, rfl⟩ := Config.refuse_eq_ok.mp refused
  obtain rfl := Run.showing_eq_fault shows
  rfl

private theorem concludes_refuse {place : Nat} {scope : Scope} {failure : Failure}
    (refused : config.refuse place scope failure = .ok response) :
    Concludes config.trace response := by
  obtain ⟨fault, -, rfl⟩ := Config.refuse_eq_ok.mp refused
  exact .failed

theorem Stops.concludes [CharacterNames] {result : Except Abort Response}
    (stops : Stops limits lines config result)
    (returns : result = .ok response) : Concludes config.trace response := by
  cases stops with
  | finished =>
    obtain rfl := Except.ok.inj returns
    exact .completed
  | asked comes does =>
    obtain rfl := Except.ok.inj returns
    obtain ⟨-, -, text, -, rfl, -⟩ := Run.effect_question.mp does
    exact .paused
  | full | unread | undone | crowded | cut => exact concludes_refuse returns

end Machine

/-- What a run returns are steps after which it goes on, and at most one more. -/
theorem run_concludes [CharacterNames] {limits : Limits} {code : List Char} {scope : Scope}
    {start : Int} {answer : Option Answer} {response : Response}
    (returns : run limits code scope start answer = .ok response) :
    ∃ trace, (∀ step ∈ trace, step.stops = false) ∧ Concludes trace response := by
  obtain ⟨-, config, reaches, stops⟩ := Machine.ends_of_run_eq_ok returns
  exact ⟨config.trace, reaches.goesOn, stops.concludes rfl⟩

end StepTrace
