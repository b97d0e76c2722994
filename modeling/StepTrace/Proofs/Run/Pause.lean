import StepTrace.Proofs.Machine.Records

/-!
# Where a run pauses

A run that pauses has come to a line that asks, whatever loops it stands in, and its last
step is the question. A run that is done has asked nothing. So the status of a run tells how
it has ended.
-/

namespace StepTrace

/-- A line that asks for the value of a variable. -/
def Line.Asks [CharacterNames] (line : Line) : Prop :=
  ∃ target prompt, Statement.ofLine line.content = .ok (.question target prompt)

instance [CharacterNames] (line : Line) : Decidable line.Asks :=
  match reads : Statement.ofLine line.content with
  | .ok (.question target prompt) => isTrue ⟨target, prompt, reads⟩
  | .ok (.loop _ _ _) | .ok (.assignment _ _) | .ok (.print _) | .error _ =>
    isFalse (by simp [Line.Asks, reads])

/-- The last step of a state is the question of one of the lines. -/
def Waits [CharacterNames] (lines : List Line) (state : State) : Prop :=
  ∃ line ∈ lines, line.Asks ∧ ∃ target text earlier,
    state.steps = ⟨line.number, .awaiting target text, state.scope⟩ :: earlier

theorem Waits.mono [CharacterNames] {lines more : List Line} {state : State}
    (waits : Waits lines state) (subset : lines ⊆ more) : Waits more state := by
  obtain ⟨line, member, rest⟩ := waits
  exact ⟨line, subset member, rest⟩

namespace Run

open Machine (item_of_full item_of_room)

variable {limits : Limits} {lines : List Line} {line : Line} {state after : State}

/-! ## Items that do not fail -/

/-- An item that does not fail reads as a statement that has its effect. -/
theorem item_goesOn {number : Nat} {reading : Except Failure Statement} {body : List Item}
    {ending : Ending} (early : ∀ fault, ending ≠ .failed fault)
    (came : item limits (.mk number reading body) state = .ok (ending, after)) :
    ∃ statement event scope, reading = .ok statement ∧
      effect limits state.scope statement = .ok (event, scope) ∧
      perform limits number (items limits body) statement state = .ok (ending, after) := by
  by_cases full : state.remaining = 0
  · rw [item_of_full full] at came
    exact absurd came (refuse_ne early)
  · rw [item_of_room full] at came
    cases reading with
    | error failure => exact absurd came (refuse_ne early)
    | ok statement =>
      cases does : effect limits state.scope statement with
      | error failure =>
        simp only [perform, does] at came
        exact absurd came (refuse_ne early)
      | ok result => exact ⟨statement, result.1, result.2, rfl, does, came⟩

/-! ## Runs that pause -/

/-- A loop pauses only where its body does. -/
theorem iterate_paused {number : Nat} {var : String} {body : State → Outcome} {times index : Nat}
    (paused : iterate limits number var body times index state = .ok (.paused, after)) :
    ∃ before, body before = .ok (.paused, after) := by
  induction times generalizing index state with
  | zero => cases paused
  | succ times ih =>
    rw [iterate] at paused
    by_cases full : state.remaining = 0
    · rw [if_pos full] at paused
      exact absurd paused (refuse_ne (by simp))
    · rw [if_neg full] at paused
      rcases andThen_eq_ok.mp paused with ⟨middle, -, later⟩ | ⟨here, -⟩
      · exact ih later
      · exact ⟨_, here⟩

/-- An item pauses where it asks, or inside its body. -/
theorem item_paused [CharacterNames] {body : List Item}
    (paused : item limits (.mk line.number (Statement.ofLine line.content) body) state =
      .ok (.paused, after)) :
    Waits [line] after ∨ ∃ before, items limits body before = .ok (.paused, after) := by
  obtain ⟨statement, event, scope, reads, does, paused⟩ := item_goesOn (by simp) paused
  simp only [perform, does] at paused
  cases statement with
  | question target prompt =>
    obtain ⟨-, -, text, -, rfl, rfl⟩ := effect_question.mp does
    obtain ⟨-, rfl⟩ := Prod.mk.inj (Except.ok.inj paused)
    exact .inl ⟨line, List.mem_singleton_self line, ⟨target, prompt, reads⟩, target, text,
      state.steps, rfl⟩
  | assignment | print => cases paused
  | loop var count text =>
    obtain ⟨-, -, times, -, rfl, -⟩ := effect_loop.mp does
    simp only at paused
    split at paused
    · exact absurd paused (refuse_ne (by simp))
    · exact .inr (iterate_paused paused)

/-- A run that pauses waits at one of its lines. -/
theorem items_paused [CharacterNames]
    (paused : items limits (outline lines) state = .ok (.paused, after)) : Waits lines after := by
  induction lines using outline_induction generalizing state after with
  | nil =>
    rw [outline_nil] at paused
    cases paused
  | inert line rest inert ih =>
    rw [outline_inert _ inert] at paused
    exact (ih paused).mono (List.subset_cons_self ..)
  | loop line rest var count text active reads ihBlock ihAfter =>
    rw [outline_loop _ active reads, items, ← reads] at paused
    rcases andThen_eq_ok.mp paused with ⟨middle, -, beyond⟩ | ⟨here, -⟩
    · exact (ihAfter beyond).mono (List.subset_cons_of_subset line Source.afterBlock_sublist.subset)
    · rcases item_paused here with waits | ⟨before, inside⟩
      · exact waits.mono (by simp)
      · exact (ihBlock inside).mono (List.subset_cons_of_subset line Source.block_sublist.subset)
  | single line rest active single ih =>
    rw [outline_line _ active single, items] at paused
    rcases andThen_eq_ok.mp paused with ⟨middle, -, beyond⟩ | ⟨here, -⟩
    · exact (ih beyond).mono (List.subset_cons_self ..)
    · rcases item_paused here with waits | ⟨before, inside⟩
      · exact waits.mono (by simp)
      · cases inside

/-! ## Runs that are done -/

/-- A run that is done has recorded no question. -/
theorem asked?_of_done [CharacterNames] {code : List Char} {start : Nat} {scope : Scope}
    (done : items limits (outline ((Source.lines code).drop start)) (entryState limits scope) =
      .ok (.done, after)) : ∀ step ∈ after.steps, step.asked? = none := by
  have follows := Machine.follows_lines limits code start scope
  rw [done] at follows
  cases follows with
  | done reaches _ =>
    intro step member
    exact (Step.stops_eq_false.mp (reaches.goesOn step (List.mem_reverse.mpr member))).2
  | stopped early _ => exact absurd rfl early

/-! ## The status of a run -/

theorem respond_asked? (ending : Ending) (state : State) :
    (respond ending state).trace.getLast?.bind Step.asked? = state.steps.head?.bind Step.asked? := by
  rw [show (respond ending state).trace = state.steps.reverse from rfl, List.getLast?_reverse]

/-- The status that belongs to an end of a run. -/
def statusOf : Ending → Status
  | .done => .completed
  | .paused => .paused
  | .failed _ => .failed

/-- The response of a run has the status that belongs to its end. -/
theorem respond_status [CharacterNames] {code : List Char} {start : Nat} {scope : Scope}
    {ending : Ending}
    (came : items limits (outline ((Source.lines code).drop start)) (entryState limits scope) =
      .ok (ending, after)) : (respond ending after).status = statusOf ending := by
  cases ending with
  | failed fault => rfl
  | done =>
    have silent : after.steps.head?.bind Step.asked? = none := by
      cases steps : after.steps with
      | nil => rfl
      | cons step rest => exact asked?_of_done came step (by simp [steps])
    rw [Response.status, respond_asked?, silent]
    rfl
  | paused =>
    obtain ⟨line, -, -, target, text, earlier, steps⟩ := items_paused came
    rw [Response.status, respond_asked?, steps]
    rfl

end Run

end StepTrace
