import StepTrace.Proofs.Trace.Budget
import StepTrace.Service

/-!
# The step limit of a request

A request is granted the steps that it wishes, but no more than the standard number, which it
is granted also where it wishes for none. So no report has a longer trace than the service
allows (`traces_withinBudget`).
-/

namespace StepTrace.Service

/-- The steps of a report; where no run came about there are none. -/
def Report.trace : Report → List Step
  | .ran response => response.trace
  | .failed _ => []

/-- The step limit that settings come to. -/
inductive Granted (settings : Scope) : Int → Prop
  | standard (silent : settings.get? "max_steps" = none) : Granted settings 10000
  | wished {value : Value} {requested : Int} (given : settings.get? "max_steps" = some value)
      (read : wish value = .ok requested) : Granted settings (min requested 10000)

variable {settings : Scope} {limits : Limits} {request : Request}

theorem limitsOf_eq_ok : limitsOf settings = .ok limits ↔
    capped settings "max_steps" Limits.standard.steps = .ok limits.steps ∧
      capped settings "max_loop" Limits.standard.loop = .ok limits.loop := by
  simp only [limitsOf, Run.bind_eq_ok, pure, Except.pure, Except.ok.injEq]
  constructor
  · rintro ⟨steps, stepsGranted, loop, loopGranted, rfl⟩
    exact ⟨stepsGranted, loopGranted⟩
  · rintro ⟨stepsGranted, loopGranted⟩
    exact ⟨limits.steps, stepsGranted, limits.loop, loopGranted, rfl⟩

theorem granted_of_limitsOf (accepted : limitsOf settings = .ok limits) :
    Granted settings limits.steps := by
  have granted := (limitsOf_eq_ok.mp accepted).1
  unfold capped at granted
  cases given : settings.get? "max_steps" with
  | none =>
    rw [given] at granted
    rw [← Except.ok.inj granted]
    exact .standard given
  | some value =>
    rw [given] at granted
    obtain ⟨requested, read, same⟩ := Run.map_eq_ok.mp granted
    rw [← same]
    exact .wished given read

theorem report_trace [CharacterNames] (accepted : limitsOf request.settings = .ok limits) :
    (report request).trace = [] ∨ ∃ response,
      run limits request.code.toList request.scope request.start request.answer = .ok response ∧
        (report request).trace = response.trace := by
  cases returned : run limits request.code.toList request.scope request.start request.answer with
  | error abort => exact .inl (by simp [report, accepted, returned, Report.trace])
  | ok response =>
    cases obstructed : traceObstacle? response.trace with
    | none => exact .inr ⟨response, rfl, by simp [report, accepted, returned, obstructed, Report.trace]⟩
    | some obstacle => exact .inl (by simp [report, accepted, returned, obstructed, Report.trace])

/-- Every trace keeps to the step limit of its run, and the limit of a run on request is the
    one that was wished for or the standard one. -/
theorem traces_withinBudget [CharacterNames] :
    (∀ limits code scope start answer response,
      run limits code scope start answer = .ok response →
        WithinBudget limits.steps response.trace) ∧
    ∀ request limits, limitsOf request.settings = .ok limits →
      ∃ granted, Granted request.settings granted ∧
        ((report request).trace.length : Int) ≤ max 0 granted + 1 := by
  refine ⟨fun _ _ _ _ _ _ => run_withinBudget, ?_⟩
  intro request limits accepted
  refine ⟨limits.steps, granted_of_limitsOf accepted, ?_⟩
  rcases report_trace accepted with empty | ⟨response, returns, same⟩
  · rw [empty, List.length_nil]
    omega
  · rw [same, Int.max_comm]
    exact (run_withinBudget returns).whole

section
attribute [local instance] CharacterNames.unnamed

/-- A request for four steps of nested loops. A fifth one refuses the body of the inner loop. -/
theorem traces_withinBudget_nested_loops :
    ∃ response : Response,
      run ⟨4, 10000⟩ "for i in range(9):\n  for j in range(9):\n    x = j".toList [] 0 none =
          .ok response ∧ response.trace.length = 5 ∧ WithinBudget 4 response.trace ∧
        limitsOf [("max_steps", .int 4)] = .ok ⟨4, 10000⟩ ∧
        ∃ granted, Granted [("max_steps", .int 4)] granted ∧
          ((report ⟨"for i in range(9):\n  for j in range(9):\n    x = j", [], 0, none,
            [("max_steps", .int 4)]⟩).trace.length : Int) ≤ max 0 granted + 1 := by
  have returns : run ⟨4, 10000⟩ "for i in range(9):\n  for j in range(9):\n    x = j".toList [] 0
      none = .ok ⟨[⟨1, .looping 9, []⟩, ⟨1, .iteration "i" 0, [("i", .int 0)]⟩,
        ⟨2, .looping 9, [("i", .int 0)]⟩, ⟨2, .iteration "j" 0, [("i", .int 0), ("j", .int 0)]⟩,
        ⟨3, .failed (Fault.bare (.tooManySteps 4)), [("i", .int 0), ("j", .int 0)]⟩],
        some (Fault.bare (.tooManySteps 4))⟩ := by decide +kernel
  have accepted : limitsOf [("max_steps", .int 4)] = .ok ⟨4, 10000⟩ := by decide
  refine ⟨_, returns, rfl, traces_withinBudget.1 _ _ _ _ _ _ returns, accepted, ?_⟩
  exact traces_withinBudget.2 ⟨"for i in range(9):\n  for j in range(9):\n    x = j", [], 0, none,
    [("max_steps", .int 4)]⟩ _ accepted

end

end StepTrace.Service
