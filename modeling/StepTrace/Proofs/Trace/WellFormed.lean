import StepTrace.Proofs.Machine.Records

/-!
# Well-formed responses

The steps of a response agree with its error and its status. At most one step is a failure or
a question, and it is the last one: a failure is that of the error, and after a question the
run can be taken up again (`run_wellFormed`).
-/

namespace StepTrace

/-- The status of a run whose last step this is. -/
def Step.status (step : Step) : Status :=
  if step.isError then .failed else if step.asked?.isSome then .paused else .completed

/-- What the steps of a response and its other parts say about each other. -/
structure Response.WellFormed (response : Response) : Prop where
  /-- No step is both a failure and a question. -/
  apart : ∀ step ∈ response.trace, ¬ (step.isError = true ∧ step.asked?.isSome = true)
  single : response.trace.countP Step.stops ≤ 1
  /-- A failure is the last step of a failed run, and no other step is one. -/
  fails : ∀ earlier step later, response.trace = earlier ++ step :: later →
    (step.isError = true ↔ later = [] ∧ response.status = .failed)
  /-- A value is asked for by the last step of a paused run, and by no other step. -/
  asks : ∀ earlier step later, response.trace = earlier ++ step :: later →
    (step.asked?.isSome = true ↔ later = [] ∧ response.status = .paused)
  silent : ∀ step ∈ response.trace, step.stops = true → step.output? = none
  /-- There is an error exactly if the last step is a failure, which describes it. -/
  error : (response.error.map fun fault => (fault.describe : Text)) =
    (response.trace.getLast?.filter Step.isError).map Step.description
  status : response.status = (response.trace.getLast?.map Step.status).getD .completed
  resumes : response.continuation?.isSome = true ↔ response.status = .paused

variable {trace earlier later : List Step} {step : Step} {response : Response}

/-! ## Single steps -/

namespace Step

theorem not_isError_and_asked (step : Step) :
    ¬ (step.isError = true ∧ step.asked?.isSome = true) := by
  unfold isError asked?
  cases step.event <;> simp

theorem output?_of_stops (ends : step.stops = true) : step.output? = none := by
  unfold stops isError asked? at ends
  unfold output?
  cases event : step.event <;> simp_all

theorem status_eq_failed : step.status = .failed ↔ step.isError = true := by
  unfold status
  by_cases fails : step.isError = true
  · simp [fails]
  · by_cases asks : step.asked?.isSome = true <;> simp [fails, asks]

theorem status_eq_paused : step.status = .paused ↔ step.asked?.isSome = true := by
  unfold status
  by_cases fails : step.isError = true
  · have unasked : ¬ step.asked?.isSome = true := fun asks => step.not_isError_and_asked ⟨fails, asks⟩
    simp [fails, unasked]
  · by_cases asks : step.asked?.isSome = true <;> simp [fails, asks]

theorem status_of_goesOn (goesOn : step.stops = false) : step.status = .completed := by
  obtain ⟨normal, unasked⟩ := stops_eq_false.mp goesOn
  simp [status, normal, unasked]

end Step

/-! ## Conclusions -/

namespace Concludes

theorem goesOn (concludes : Concludes trace response)
    (going : ∀ step ∈ trace, step.stops = false) :
    ∀ step ∈ response.trace.dropLast, step.stops = false := by
  cases concludes with
  | completed => exact fun step member => going step (List.dropLast_subset _ member)
  | paused | failed => simpa only [List.dropLast_concat] using going

theorem status_eq (concludes : Concludes trace response)
    (going : ∀ step ∈ trace, step.stops = false) :
    response.status = (response.trace.getLast?.map Step.status).getD .completed := by
  cases concludes with
  | completed =>
    cases ends : trace.getLast? with
    | none => simp [Response.status, ends]
    | some step =>
      have goesOn := going step (List.mem_of_getLast? ends)
      have unasked := (Step.stops_eq_false.mp goesOn).2
      simp [Response.status, ends, unasked, Step.status_of_goesOn goesOn]
  | paused | failed => simp [Response.status, Step.status, Step.asked?, Step.isError]

theorem error_eq (concludes : Concludes trace response)
    (going : ∀ step ∈ trace, step.stops = false) :
    (response.error.map fun fault => (fault.describe : Text)) =
      (response.trace.getLast?.filter Step.isError).map Step.description := by
  cases concludes with
  | completed =>
    cases ends : trace.getLast? with
    | none => rfl
    | some step =>
      have normal := (Step.stops_eq_false.mp (going step (List.mem_of_getLast? ends))).1
      simp [Option.filter, normal]
  | paused | failed => simp [Option.filter, Step.isError, Step.description]

end Concludes

/-! ## Responses -/

namespace Response

theorem status_eq_paused : response.status = .paused ↔ response.error = none ∧
    ∃ step target, response.trace.getLast? = some step ∧ step.asked? = some target := by
  unfold status
  cases failed : response.error with
  | some fault => simp
  | none =>
    cases ends : response.trace.getLast? with
    | none => simp
    | some step => cases asked : step.asked? <;> simp [asked]

theorem continuation?_isSome :
    response.continuation?.isSome = true ↔ response.status = .paused := by
  unfold continuation?
  by_cases waits : response.status = .paused
  · obtain ⟨-, step, target, ends, asked⟩ := status_eq_paused.mp waits
    simp [waits, ends, asked]
  · rw [if_neg waits]
    exact iff_of_false (by simp) waits

/-- A paused run goes on after the line of its last step, with the variables of this step. -/
theorem continuation?_eq_some_iff {place : Continuation} :
    response.continuation? = some place ↔ response.error = none ∧
      ∃ step, response.trace.getLast? = some step ∧ step.asked? = some place.target ∧
        step.scope = place.scope ∧ step.line = place.start := by
  unfold continuation?
  by_cases waits : response.status = .paused
  · obtain ⟨finished, step, target, ends, asked⟩ := status_eq_paused.mp waits
    obtain ⟨scope, start, wanted⟩ := place
    simp only [if_pos waits, ends, asked, bind, Option.bind, pure, Option.some.injEq,
      Continuation.mk.injEq, finished, exists_eq_left', true_and]
    exact ⟨fun ⟨same, line, named⟩ => ⟨named, same, line⟩, fun ⟨named, same, line⟩ => ⟨same, line, named⟩⟩
  · rw [if_neg waits]
    refine iff_of_false (by simp) ?_
    rintro ⟨finished, step, ends, asked, -, -⟩
    exact waits (status_eq_paused.mpr ⟨finished, step, _, ends, asked⟩)

private theorem goesOn_of_later (going : ∀ step ∈ response.trace.dropLast, step.stops = false)
    (whole : response.trace = earlier ++ step :: later) (others : later ≠ []) :
    step.stops = false := by
  refine going step ?_
  rw [whole, List.dropLast_append_of_ne_nil (List.cons_ne_nil step later),
    List.dropLast_cons_of_ne_nil others]
  exact List.mem_append_right _ List.mem_cons_self

private theorem countP_stops_le (going : ∀ step ∈ response.trace.dropLast, step.stops = false) :
    response.trace.countP Step.stops ≤ 1 := by
  have none : response.trace.dropLast.countP Step.stops = 0 := by
    refine List.countP_eq_zero.mpr fun step member => ?_
    simp [going step member]
  rcases List.eq_nil_or_concat response.trace with empty | ⟨front, last, whole⟩
  · simp [empty]
  · rw [whole, List.concat_eq_append, List.dropLast_concat] at none
    rw [whole, List.concat_eq_append, List.countP_append, none, List.countP_singleton]
    split <;> omega

/-- What the last step tells is enough for a response to be well formed. -/
theorem wellFormed_of_last (going : ∀ step ∈ response.trace.dropLast, step.stops = false)
    (told : response.status = (response.trace.getLast?.map Step.status).getD .completed)
    (error : (response.error.map fun fault => (fault.describe : Text)) =
      (response.trace.getLast?.filter Step.isError).map Step.description) :
    response.WellFormed where
  apart := fun step _ => step.not_isError_and_asked
  single := countP_stops_le going
  fails := by
    intro earlier step later whole
    by_cases last : later = []
    · subst last
      rw [whole, List.getLast?_concat] at told
      simp only [true_and]
      rw [told]
      exact Step.status_eq_failed.symm
    · have normal := (Step.stops_eq_false.mp (goesOn_of_later going whole last)).1
      simp [normal, last]
  asks := by
    intro earlier step later whole
    by_cases last : later = []
    · subst last
      rw [whole, List.getLast?_concat] at told
      simp only [true_and]
      rw [told]
      exact Step.status_eq_paused.symm
    · have unasked := (Step.stops_eq_false.mp (goesOn_of_later going whole last)).2
      simp [unasked, last]
  silent := fun step _ => Step.output?_of_stops
  error := error
  status := told
  resumes := continuation?_isSome

end Response

/-- Every run returns a well-formed response, wherever in its loops it stops. -/
theorem run_wellFormed [CharacterNames] {limits : Limits} {code : List Char} {scope : Scope}
    {start : Int} {answer : Option Answer}
    (returns : run limits code scope start answer = .ok response) :
    response.WellFormed := by
  obtain ⟨trace, going, concludes⟩ := run_concludes returns
  apply Response.wellFormed_of_last
  · exact concludes.goesOn going
  · exact concludes.status_eq going
  · exact concludes.error_eq going

section
attribute [local instance] CharacterNames.unnamed

/-- A run that asks inside a loop inside a loop. -/
theorem run_wellFormed_nested_question :
    ∃ response,
      run Limits.standard "for i in range(2):\n  for j in range(2):\n    x = input()".toList [] 0
          none = .ok response ∧
        response.trace.length = 5 ∧ response.status = .paused ∧ response.WellFormed := by
  refine ⟨⟨[⟨1, .looping 2, []⟩, ⟨1, .iteration "i" 0, [("i", .int 0)]⟩,
    ⟨2, .looping 2, [("i", .int 0)]⟩, ⟨2, .iteration "j" 0, [("i", .int 0), ("j", .int 0)]⟩,
    ⟨3, .awaiting "x" "", [("i", .int 0), ("j", .int 0)]⟩], none⟩, ?_⟩
  have returns : run Limits.standard
      "for i in range(2):\n  for j in range(2):\n    x = input()".toList [] 0 none =
        .ok ⟨[⟨1, .looping 2, []⟩, ⟨1, .iteration "i" 0, [("i", .int 0)]⟩,
          ⟨2, .looping 2, [("i", .int 0)]⟩, ⟨2, .iteration "j" 0, [("i", .int 0), ("j", .int 0)]⟩,
          ⟨3, .awaiting "x" "", [("i", .int 0), ("j", .int 0)]⟩], none⟩ := by decide +kernel
  exact ⟨returns, rfl, rfl, run_wellFormed returns⟩

end

end StepTrace
