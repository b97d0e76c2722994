import StepTrace.Proofs.Conversation.Chain
import StepTrace.Proofs.Trace.Failure
import StepTrace.Proofs.Trace.Silence
import StepTrace.Proofs.Trace.WellFormed

/-!
# How a conversation ends

The status of the runs of a conversation taken as one is computed from their last step.
It is that of the last run, unless this run records nothing: then the last step is the
question before it, which has been answered and still counts as waiting.
-/

namespace StepTrace

variable {limits : Limits} {code : List Char} {response paused last : Response}
  {earlier : List Response} {before : List Step}

namespace Response

/-- A run that goes on waits at its last step. -/
theorem continuation?_eq_some {place : Continuation}
    (goesOn : response.continuation? = some place) :
    response.status = .paused ∧ response.error = none ∧
      ∃ step, response.trace.getLast? = some step ∧ step.asked?.isSome := by
  have waits : response.status = .paused := continuation?_isSome.mp (by rw [goesOn]; rfl)
  obtain ⟨finished, step, target, ends, asked⟩ := status_eq_paused.mp waits
  exact ⟨waits, finished, step, ends, by rw [asked]; rfl⟩

/-- Only the last step counts for the status, whatever stands before it. -/
theorem status_append (recorded : last.trace ≠ []) :
    status ⟨before ++ last.trace, last.error⟩ = last.status := by
  simp only [status, List.getLast?_append_of_ne_nil before recorded]

theorem status_of_trace_eq_nil (finished : response.error = none) (empty : response.trace = []) :
    response.status = .completed := by
  simp [status, finished, empty]

/-- Steps that end with a question that waits make a response that waits. -/
theorem status_of_question (goesOn : paused.continuation?.isSome) :
    status ⟨before ++ paused.trace, none⟩ = .paused := by
  obtain ⟨place, found⟩ := Option.isSome_iff_exists.mp goesOn
  obtain ⟨waits, finished, step, ends, -⟩ := continuation?_eq_some found
  have recorded : paused.trace ≠ [] := by
    intro empty
    simp [empty] at ends
  rw [← finished, status_append recorded]
  exact waits

end Response

namespace Conversation

theorem response_concat {conversation : Conversation}
    (runs : conversation.responses = earlier ++ [last]) :
    conversation.response = ⟨earlier.flatMap Response.trace ++ last.trace, last.error⟩ := by
  simp [response, runs]

/-- A run that records nothing has not failed. -/
theorem error_eq_none [CharacterNames] {scope : Scope} {start : Int} {answer : Option Answer}
    (returns : run limits code scope start answer = .ok response) (empty : response.trace = []) :
    response.error = none := by
  cases failed : response.error with
  | none => rfl
  | some fault =>
    obtain ⟨steps, step, shown, -⟩ := run_failure_shows returns failed
    rw [empty] at shown
    simp at shown

/-- The last run of a conversation and the one that it takes up. -/
private theorem status_of_resumed [CharacterNames] {others : List Response}
    (resumes : Resumes limits code paused last) :
    Response.status ⟨(others ++ [paused]).flatMap Response.trace ++ last.trace, last.error⟩ =
        last.status ↔ last.trace ≠ [] := by
  obtain ⟨place, text, goesOn, returns⟩ := resumes
  refine ⟨fun same empty => ?_, Response.status_append⟩
  have finished := error_eq_none returns empty
  rw [Response.status_of_trace_eq_nil finished empty, empty, finished, List.append_nil,
    List.flatMap_append, List.flatMap_singleton,
    Response.status_of_question (by rw [goesOn]; rfl)] at same
  cases same

/-- The runs of a conversation taken as one have the status of the last run exactly where
    the question that was answered last, if there is one, has a line after it that is
    neither blank nor a comment. -/
theorem status_eq_iff [CharacterNames] {answers : List Text} {typed : Option (List Text)}
    (settled : (hold limits code answers typed).parting = .settled) :
    ∃ earlier last, (hold limits code answers typed).responses = earlier ++ [last] ∧
      ((hold limits code answers typed).response.status = last.status ↔
        ∀ place, earlier.getLast?.bind Response.continuation? = some place →
          ¬ Idle (Source.lines code) place.start) := by
  obtain ⟨first, rest, runs, -, chain⟩ := responses_chain settled
  obtain ⟨earlier, last, split⟩ : ∃ earlier last, first :: rest = earlier ++ [last] :=
    ⟨_, _, (List.dropLast_append_getLast (List.cons_ne_nil first rest)).symm⟩
  rw [split] at runs chain
  refine ⟨earlier, last, runs, ?_⟩
  rw [response_concat runs]
  rcases List.eq_nil_or_concat earlier with rfl | ⟨others, paused, rfl⟩
  · simp
  · have resumes : Resumes limits code paused last := by
      refine (List.isChain_append.mp chain).2.2 paused ?_ last rfl
      simp
    rw [List.concat_eq_append, status_of_resumed resumes]
    obtain ⟨place, text, goesOn, returns⟩ := resumes
    have silent : last.trace = [] ↔ Idle (Source.lines code) place.start := run_trace_eq_nil_iff returns
    simp [goesOn, silent]

section
attribute [local instance] CharacterNames.unnamed

/-- A conversation whose question has a line after it. -/
theorem status_eq_iff_printed_answer :
    (hold Limits.standard "x = input()\nprint(x)".toList ["5"] none).parting = .settled ∧
      ∃ earlier last,
        (hold Limits.standard "x = input()\nprint(x)".toList ["5"] none).responses =
            earlier ++ [last] ∧
          ((hold Limits.standard "x = input()\nprint(x)".toList ["5"] none).response.status =
              last.status ↔
            ∀ place, earlier.getLast?.bind Response.continuation? = some place →
              ¬ Idle (Source.lines "x = input()\nprint(x)".toList) place.start) := by
  have settled :
      (hold Limits.standard "x = input()\nprint(x)".toList ["5"] none).parting = .settled := by
    decide +kernel
  exact ⟨settled, status_eq_iff settled⟩

/-- An answered question on the last line still counts as waiting, while the run that takes
    it up is completed. -/
theorem status_of_question_on_last_line :
    (hold Limits.standard "x = input()".toList ["5"] none).parting = .settled ∧
      (hold Limits.standard "x = input()".toList ["5"] none).response.status = .paused ∧
      (hold Limits.standard "x = input()".toList ["5"] none).responses.getLast?.map
        Response.status = some .completed := by
  decide +kernel

end

end Conversation

end StepTrace
