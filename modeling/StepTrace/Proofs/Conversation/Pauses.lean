import Mathlib.Data.List.Perm.Subperm
import StepTrace.Proofs.Conversation.Chain
import StepTrace.Proofs.Trace.Places
import StepTrace.Proofs.Trace.WellFormed

/-!
# Pauses

Each run of a chain goes on after the line that asked in the run before it, wherever in loops
this line stands. So the lines that ask stand one below the other (`pauses_increase`), and there
are at most one more runs than lines (`length_le_pauses`, `length_pauses_le`).
-/

namespace StepTrace

variable {limits : Limits} {code : List Char} {response paused next : Response}
  {place : Continuation} {responses : List Response}

/-! ## Where runs go on -/

/-- The response of some run of the program. -/
def Returned [CharacterNames] (limits : Limits) (code : List Char) (response : Response) : Prop :=
  ∃ scope start answer, run limits code scope start answer = .ok response

/-- The lines after which paused runs go on. -/
def pauses (responses : List Response) : List Nat :=
  responses.filterMap fun response => response.continuation?.map Continuation.start

theorem pauses_cons_of_goesOn (responses : List Response)
    (goesOn : response.continuation? = some place) :
    pauses (response :: responses) = place.start :: pauses responses := by
  simp [pauses, goesOn]

theorem pauses_cons_of_stopped (responses : List Response)
    (stopped : response.continuation? = none) : pauses (response :: responses) = pauses responses := by
  simp [pauses, stopped]

/-- A run goes on after the line of a step that it has recorded. -/
theorem continuation_placed [CharacterNames] {scope : Scope} {start : Int} {answer : Option Answer}
    (returns : run limits code scope start answer = .ok response)
    (goesOn : response.continuation? = some place) :
    start < place.start ∧ place.start ≤ (Source.lines code).length := by
  obtain ⟨-, step, ends, -, -, line⟩ := Response.continuation?_eq_some_iff.mp goesOn
  have placed := run_placed returns step (List.mem_of_getLast? ends)
  rw [← line]
  exact ⟨placed.later, placed.inside⟩

/-- A run that takes another one up goes on farther down in the program. -/
theorem Resumes.later [CharacterNames] {after : Continuation}
    (resumes : Resumes limits code paused next)
    (goesOn : paused.continuation? = some place) (goesOnAfter : next.continuation? = some after) :
    place.start < after.start := by
  obtain ⟨found, text, same, returns⟩ := resumes
  obtain rfl := Option.some.inj (same.symm.trans goesOn)
  have further := (continuation_placed returns goesOnAfter).1
  omega

theorem Resumes.returned [CharacterNames] (resumes : Resumes limits code paused next) : Returned
    limits code next := by
  obtain ⟨place, text, -, returns⟩ := resumes
  exact ⟨_, _, _, returns⟩

/-- Nothing takes up a run that does not go on. -/
theorem Resumes.not_stopped [CharacterNames] (resumes : Resumes limits code paused next) :
    ∃ place, paused.continuation? = some place := by
  obtain ⟨place, text, goesOn, -⟩ := resumes
  exact ⟨place, goesOn⟩

/-- By induction on the runs, each of which takes up the one before it. -/
theorem pauses_increase [CharacterNames] (chain : responses.IsChain (Resumes limits code)) :
    (pauses responses).IsChain (· < ·) := by
  induction responses with
  | nil => exact .nil
  | cons paused rest ih =>
    cases rest with
    | nil =>
      cases goesOn : paused.continuation? with
      | none => simp [pauses, goesOn]
      | some place => simp [pauses, goesOn]
    | cons next others =>
      obtain ⟨resumes, chainRest⟩ := List.isChain_cons_cons.mp chain
      obtain ⟨place, goesOn⟩ := resumes.not_stopped
      rw [pauses_cons_of_goesOn _ goesOn, List.isChain_cons]
      refine ⟨fun later isFirst => ?_, ih chainRest⟩
      cases goesOnNext : next.continuation? with
      | some after =>
        rw [pauses_cons_of_goesOn _ goesOnNext] at isFirst
        exact Option.some.inj isFirst ▸ resumes.later goesOn goesOnNext
      | none =>
        cases others with
        | nil => simp [pauses, goesOnNext] at isFirst
        | cons other more =>
          obtain ⟨after, goesOnAfter⟩ := (List.isChain_cons_cons.mp chainRest).1.not_stopped
          rw [goesOnNext] at goesOnAfter
          cases goesOnAfter

theorem returned_of_chain [CharacterNames] (returned : Returned limits code response)
    (chain : (response :: responses).IsChain (Resumes limits code)) :
    ∀ each ∈ response :: responses, Returned limits code each := by
  induction responses generalizing response with
  | nil => simpa using returned
  | cons next others ih =>
    obtain ⟨resumes, chainRest⟩ := List.isChain_cons_cons.mp chain
    exact List.forall_mem_cons.mpr ⟨returned, ih resumes.returned chainRest⟩

theorem pauses_inside [CharacterNames] (returned : ∀ each ∈ responses, Returned limits code each) :
    ∀ line ∈ pauses responses, 0 < line ∧ line ≤ (Source.lines code).length := by
  intro line member
  obtain ⟨response, isOne, found⟩ := List.mem_filterMap.mp member
  obtain ⟨place, goesOn, rfl⟩ := Option.map_eq_some_iff.mp found
  obtain ⟨scope, start, answer, returns⟩ := returned response isOne
  have forward := (Machine.ends_of_run_eq_ok returns).1
  obtain ⟨later, inside⟩ := continuation_placed returns goesOn
  exact ⟨by omega, inside⟩

/-- All runs but the last are taken up, so they go on. -/
theorem length_le_pauses [CharacterNames] (chain : responses.IsChain (Resumes limits code)) :
    responses.length ≤ (pauses responses).length + 1 := by
  induction responses with
  | nil => exact Nat.zero_le _
  | cons paused rest ih =>
    cases rest with
    | nil => exact Nat.le_add_left 1 _
    | cons next others =>
      obtain ⟨resumes, chainRest⟩ := List.isChain_cons_cons.mp chain
      obtain ⟨place, goesOn⟩ := resumes.not_stopped
      rw [pauses_cons_of_goesOn _ goesOn, List.length_cons, List.length_cons]
      exact Nat.succ_le_succ (ih chainRest)

/-- There are no more lines that ask than lines. -/
theorem length_pauses_le {lines : Nat} {starts : List Nat} (increase : starts.Pairwise (· < ·))
    (inside : ∀ line ∈ starts, 0 < line ∧ line ≤ lines) : starts.length ≤ lines := by
  have distinct : starts.Nodup := increase.imp Nat.ne_of_lt
  have among : starts ⊆ List.range' 1 lines := by
    intro line member
    have := inside line member
    rw [List.mem_range'_1]
    omega
  simpa using (distinct.subperm among).length_le

/-! ## Steps that ask -/

/-- Of the steps of a run only the one after which it goes on asks for a value. -/
theorem asking_lines [CharacterNames] (returned : Returned limits code response) :
    (response.trace.filter fun step => step.asked?.isSome).map Step.line =
      (response.continuation?.map Continuation.start).toList := by
  obtain ⟨scope, start, answer, returns⟩ := returned
  obtain ⟨trace, going, concludes⟩ := run_concludes returns
  have silent : trace.filter (fun step => step.asked?.isSome) = [] := by
    refine List.filter_eq_nil_iff.mpr fun step member => ?_
    simp [(Step.stops_eq_false.mp (going step member)).2]
  cases concludes with
  | completed =>
    have rests : Response.continuation? ⟨trace, none⟩ = none := by
      refine Option.eq_none_iff_forall_not_mem.mpr fun place goesOn => ?_
      obtain ⟨-, step, ends, asked, -⟩ := Response.continuation?_eq_some_iff.mp goesOn
      have unasked := (Step.stops_eq_false.mp (going step (List.mem_of_getLast? ends))).2
      rw [unasked] at asked
      cases asked
    simp [silent, rests]
  | paused =>
    rw [List.filter_append, silent]
    simp [Response.continuation?, Response.status, Step.asked?]
  | failed =>
    rw [List.filter_append, silent]
    simp [Response.continuation?, Response.status, Step.asked?]

/-- A run that does not go on has asked for nothing. -/
theorem asked?_eq_none_of_stopped [CharacterNames] (returned : Returned limits code response)
    (stopped : response.continuation? = none) : ∀ step ∈ response.trace, step.asked? = none := by
  have none := asking_lines returned
  rw [stopped] at none
  intro step member
  simpa using List.filter_eq_nil_iff.mp (List.map_eq_nil_iff.mp none) step member

theorem asking_lines_flatMap [CharacterNames]
    (returned : ∀ each ∈ responses, Returned limits code each) :
    ((responses.flatMap Response.trace).filter fun step => step.asked?.isSome).map Step.line =
      pauses responses := by
  induction responses with
  | nil => rfl
  | cons response rest ih =>
    obtain ⟨first, others⟩ := List.forall_mem_cons.mp returned
    rw [List.flatMap_cons, List.filter_append, List.map_append, asking_lines first, ih others]
    cases goesOn : response.continuation? with
    | none =>
      rw [pauses_cons_of_stopped _ goesOn]
      rfl
    | some place =>
      rw [pauses_cons_of_goesOn _ goesOn]
      rfl

end StepTrace
