import StepTrace.Proofs.FaultKind
import StepTrace.Proofs.Machine.Abort

/-!
# The machine under wider limits

A turn that is possible under some limits is possible under wider ones and does the same
(`Moves.of_le`). The machine stops where it stopped before, unless it was a limit that
stopped it (`Stops.of_le`).
-/

namespace StepTrace

/-- As many steps and as many times of every loop, or more. -/
instance : LE Limits := ⟨fun limits more => limits.steps ≤ more.steps ∧ limits.loop ≤ more.loop⟩

namespace Response

/-- The run has failed on one of its limits. -/
def OutOfBudget (response : Response) : Prop :=
  ∃ fault, response.error = some fault ∧ fault.cause.kind = .budget

/-- The run has failed on its step limit. -/
def OutOfSteps (response : Response) : Prop :=
  ∃ fault limit, response.error = some fault ∧ fault.cause = .tooManySteps limit

end Response

namespace Run

variable {limits wide : Limits} {before after : Scope} {statement : Statement} {event : Event}

/-! ## Statements -/

theorem loopCount_of_le (wider : limits ≤ wide) (text : List Char) (value : Value) :
    loopCount limits text value = loopCount wide text value ∨
      ∃ n, loopCount limits text value =
        .error (showing [limits.loop, n] (.tooManyIterations limits.loop n)) := by
  unfold loopCount
  cases integer? value with
  | none => exact .inl rfl
  | some n =>
    by_cases exceeds : limits.loop < n
    · exact .inr ⟨n, by simp [exceeds]⟩
    · have allowed : ¬ wide.loop < n := by
        have := wider.2
        omega
      exact .inl (by simp [exceeds, allowed])

theorem effect_loop_of_eval {var : String} {count : Expr} {value : Value} (text : List Char)
    (valued : count.eval before = .ok value) :
    effect limits before (.loop var count text) =
      (loopCount limits text value).map fun times => (.looping times, before) := by
  simp only [effect, valued]
  show (loopCount limits text value >>= fun times => pure (Event.looping times, before)) = _
  cases loopCount limits text value <;> rfl

/-- A statement does the same under wider limits, unless it is a loop that is refused. -/
theorem effect_of_le (wider : limits ≤ wide) (before : Scope) (statement : Statement) :
    effect limits before statement = effect wide before statement ∨
      ∃ n, effect limits before statement =
        .error (showing [limits.loop, n] (.tooManyIterations limits.loop n)) := by
  cases statement with
  | question | assignment | print => exact .inl rfl
  | loop var count text =>
    cases valued : count.eval before with
    | error fault => exact .inl (by simp only [effect, valued]; rfl)
    | ok value =>
      rw [effect_loop_of_eval text valued, effect_loop_of_eval text valued]
      rcases loopCount_of_le wider text value with same | ⟨n, refused⟩
      · exact .inl (by rw [same])
      · exact .inr ⟨n, by rw [refused]; rfl⟩

theorem effect_ok_of_le (wider : limits ≤ wide)
    (does : effect limits before statement = .ok (event, after)) :
    effect wide before statement = .ok (event, after) := by
  rcases effect_of_le wider before statement with same | ⟨n, refused⟩
  · rw [← same, does]
  · rw [does] at refused
    cases refused

end Run

namespace Machine

variable {limits wide : Limits} {lines : List Line} {config next last : Config}
  {result : Except Abort Response} {response : Response}

/-! ## Turns -/

theorem Config.Full.of_le (wider : limits ≤ wide) (full : config.Full wide) : config.Full limits :=
  Int.le_trans wider.1 full

theorem Reads.of_le [CharacterNames] {line : Line} {statement : Statement} (wider : limits ≤ wide)
    (comes : Reads limits lines config line statement) : Reads wide lines config line statement :=
  { comes with room := mt (Config.Full.of_le wider) comes.room }

/-- A turn that is possible is so under wider limits. -/
theorem Moves.of_le [CharacterNames] (wider : limits ≤ wide)
    (moves : Moves limits lines config next) : Moves wide lines config next := by
  cases moves with
  | skip inside here inert => exact .skip inside here inert
  | perform comes plain does =>
    exact .perform (comes.of_le wider) plain (Run.effect_ok_of_le wider does)
  | idle comes does => exact .idle (comes.of_le wider) (Run.effect_ok_of_le wider does)
  | begin comes does runs room =>
    exact .begin (comes.of_le wider) (Run.effect_ok_of_le wider does) runs
      (mt (Config.Full.of_le wider) room)
  | again ends more room => exact .again ends more (mt (Config.Full.of_le wider) room)
  | leave ends spent => exact .leave ends spent

theorem Reaches.of_le [CharacterNames] (wider : limits ≤ wide)
    (reaches : Reaches limits lines config last) : Reaches wide lines config last :=
  Relation.ReflTransGen.mono (fun _ _ => Moves.of_le wider) _ _ reaches

/-! ## Where it stops -/

private theorem outOfBudget_of_showing {place : Nat} {scope : Scope} {shown : List Int}
    {cause : Cause} (limited : cause.kind = .budget)
    (refused : config.refuse place scope (Run.showing shown cause) = .ok response) :
    response.OutOfBudget := by
  obtain ⟨fault, shows, rfl⟩ := Config.refuse_eq_ok.mp refused
  obtain rfl := Run.showing_eq_fault shows
  exact ⟨_, rfl, limited⟩

/-- Where the machine stops for anything but a limit, it does so under wider limits. -/
theorem Stops.of_le [CharacterNames] (wider : limits ≤ wide)
    (stops : Stops limits lines config result)
    (returns : result = .ok response) (within : ¬ response.OutOfBudget) :
    Stops wide lines config result := by
  cases stops with
  | finished inside past => exact .finished inside past
  | asked comes does => exact .asked (comes.of_le wider) (Run.effect_ok_of_le wider does)
  | unread comes room fails => exact .unread comes (mt (Config.Full.of_le wider) room) fails
  | @undone _ statement _ comes fails =>
    rcases Run.effect_of_le wider config.scope statement with same | ⟨n, refused⟩
    · exact .undone (comes.of_le wider) (same ▸ fails)
    · rw [refused, Except.error.injEq] at fails
      subst fails
      exact absurd (outOfBudget_of_showing rfl returns) within
  | full | crowded | cut => exact absurd (outOfBudget_of_showing rfl returns) within

/-- Where the machine fails on the step limit, a step is due for which there is no room. -/
theorem Stops.overdrawn [CharacterNames] (stops : Stops limits lines config result)
    (returns : result = .ok response)
    (spent : response.OutOfSteps) : Overdrawn limits lines config := by
  obtain ⟨fault, limit, failed, cause⟩ := spent
  cases stops with
  | finished | asked =>
    obtain rfl := Except.ok.inj returns
    cases failed
  | full comes full => exact .line comes full
  | crowded comes does runs full => exact .first comes does runs full
  | cut ends more full => exact .another ends more full
  | unread comes room fails =>
    obtain ⟨found, rfl, rfl⟩ := Config.refuse_eq_ok.mp returns
    obtain rfl := Option.some.inj failed
    exact absurd (by simp [Failure.kind?, cause, Cause.kind]) (Statement.unlimited_ofLine _ fails)
  | undone comes fails =>
    obtain ⟨found, rfl, rfl⟩ := Config.refuse_eq_ok.mp returns
    obtain rfl := Option.some.inj failed
    rcases Run.kind_of_effect fails with other | ⟨n, refused⟩
    · exact absurd (by simp [Failure.kind?, cause, Cause.kind]) other
    · obtain rfl := Run.showing_eq_fault refused.symm
      cases cause

end Machine

end StepTrace
