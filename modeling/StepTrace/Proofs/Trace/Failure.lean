import StepTrace.Proofs.Trace.Progress

/-!
# What a failure shows

The last step of a failed run shows the variables from before what failed, with one
exception: where the step limit refuses another time of a loop that is under way, the
variable of the loop has been set to the index of that time.
-/

namespace StepTrace

open Machine

variable {limits : Limits} {lines : List Line} {before : Scope} {earlier : List Step}
  {fault : Fault} {start : Nat} {config : Config} {response : Response}

/-- The last step of a failed run, by the steps before it. It shows the variables before what
    failed, unless the step limit refuses another time of a loop, whose variable is set. -/
inductive FailureShows [CharacterNames] (limits : Limits) (lines : List Line) (before : Scope)
    (earlier : List Step) (fault : Fault) : Step → Prop
  | unchanged {line : Nat} (rests : ¬ Underway line earlier) :
      FailureShows limits lines before earlier fault
        ⟨line, .failed fault, scopeAfter before earlier⟩
  | interrupted {line : Nat} {var : String} {count : Expr} {text : List Char}
      (header : States lines (line - 1) (.loop var count text)) (runs : Underway line earlier)
      (limit : Run.stepLimit limits = .fault fault) :
      FailureShows limits lines before earlier fault
        ⟨line, .failed fault,
          (scopeAfter before earlier).set var (.int (progress line earlier).begun)⟩

/-- The loop of the line at the cursor is not under way. -/
private theorem not_underway_cursor [CharacterNames]
    (reaches : Reaches limits lines (entry start before) config) :
    ¬ Underway (config.cursor + 1) config.trace := by
  refine reaches.tracked.rests _ fun loop isOpen => ?_
  have passed := (reaches.sound.stands loop isOpen).passed
  omega

private theorem shows_unchanged [CharacterNames] {failure : Failure}
    (reaches : Reaches limits lines (entry start before) config)
    (refused : config.refuse config.cursor config.scope failure = .ok response)
    (failed : response.error = some fault) :
    ∃ last, response.trace = config.trace ++ [last] ∧
      FailureShows limits lines before config.trace fault last := by
  obtain ⟨found, -, rfl⟩ := Config.refuse_eq_ok.mp refused
  obtain rfl := Option.some.inj failed
  refine ⟨_, rfl, ?_⟩
  rw [reaches.sound.linked]
  exact .unchanged (not_underway_cursor reaches)

private theorem shows_interrupted [CharacterNames] {loop : OpenLoop} {outer : List OpenLoop}
    (reaches : Reaches limits lines (entry start before) config)
    (ends : config.bodyEnd? = some (loop, outer)) (more : loop.next < loop.count)
    (refused : config.refuse loop.header (config.bound loop) (Run.stepLimit limits) = .ok response)
    (failed : response.error = some fault) :
    ∃ last, response.trace = config.trace ++ [last] ∧
      FailureShows limits lines before config.trace fault last := by
  obtain ⟨found, limit, rfl⟩ := Config.refuse_eq_ok.mp refused
  obtain rfl := Option.some.inj failed
  have isOpen : loop ∈ config.loops := by simp [(Config.bodyEnd?_eq_some.mp ends).1]
  obtain ⟨count, text, header⟩ := (reaches.sound.stands loop isOpen).header
  have comeSoFar := reaches.tracked.runs loop isOpen
  have runs : Underway (loop.header + 1) config.trace := by
    unfold Underway
    rw [comeSoFar]
    exact more
  have shows : FailureShows limits lines before config.trace found
      ⟨loop.header + 1, .failed found, (scopeAfter before config.trace).set loop.var
        (.int (progress (loop.header + 1) config.trace).begun)⟩ := .interrupted header runs limit
  rw [comeSoFar] at shows
  refine ⟨_, rfl, ?_⟩
  rw [Config.bound, reaches.sound.linked]
  exact shows

private theorem Machine.Stops.failure [CharacterNames] {result : Except Abort Response}
    (reaches : Reaches limits lines (entry start before) config)
    (stops : Stops limits lines config result) (returns : result = .ok response)
    (failed : response.error = some fault) :
    ∃ last, response.trace = config.trace ++ [last] ∧
      FailureShows limits lines before config.trace fault last := by
  cases stops with
  | finished | asked =>
    obtain rfl := Except.ok.inj returns
    cases failed
  | full | unread | undone | crowded => exact shows_unchanged reaches returns failed
  | cut ends more => exact shows_interrupted reaches ends more returns failed

/-- A failed run shows its fault last. -/
theorem run_failure_shows [CharacterNames] {code : List Char} {scope : Scope} {start : Int}
    {answer : Option Answer} (returns : run limits code scope start answer = .ok response)
    (failed : response.error = some fault) :
    ∃ earlier last, response.trace = earlier ++ [last] ∧
      FailureShows limits (Source.lines code) (entered scope answer) earlier fault last := by
  obtain ⟨-, config, reaches, stops⟩ := ends_of_run_eq_ok returns
  exact ⟨config.trace, stops.failure reaches rfl failed⟩

/-- The last step of a failed run shows the variables of the step before it, or those
    that the run began with, exactly where the run did not fail on another time of a loop
    under way, or the variable of that loop had the index of that time already. -/
theorem failed_scope_eq_iff [CharacterNames] {code : List Char} {scope : Scope} {start : Int}
    {answer : Option Answer} (returns : run limits code scope start answer = .ok response)
    (failed : response.error = some fault) :
    ∃ earlier last, response.trace = earlier ++ [last] ∧ last.event = .failed fault ∧
      (last.scope = scopeAfter (entered scope answer) earlier ↔
        ∀ var count text, States (Source.lines code) (last.line - 1) (.loop var count text) →
          Underway last.line earlier →
            (scopeAfter (entered scope answer) earlier).get? var =
              some (.int (progress last.line earlier).begun)) := by
  obtain ⟨earlier, last, shown, shows⟩ := run_failure_shows returns failed
  refine ⟨earlier, last, shown, ?_⟩
  cases shows with
  | unchanged rests => exact ⟨rfl, fun _ _ _ _ _ runs => absurd runs rests, fun _ => rfl⟩
  | @interrupted line var _ _ header runs limit =>
    refine ⟨rfl, ?_⟩
    rw [Scope.set_eq_self_iff]
    constructor
    · intro already other count text states _
      obtain ⟨rfl, -, -⟩ := Statement.loop.inj (states.unique header)
      exact already
    · intro already
      exact already var _ _ header runs

section
attribute [local instance] CharacterNames.unnamed

/-- A run that fails on a name without a value. -/
theorem failed_scope_eq_iff_missing_name :
    run Limits.standard "x = 1\nprint(y)".toList [] 0 none =
        .ok ⟨[⟨1, .assigned "x" "1", [("x", .int 1)]⟩,
            ⟨2, .failed (Fault.atColumn (.undefinedName "y") 7), [("x", .int 1)]⟩],
          some (Fault.atColumn (.undefinedName "y") 7)⟩ ∧
      ∃ earlier last,
        [⟨1, .assigned "x" "1", [("x", .int 1)]⟩,
            ⟨2, .failed (Fault.atColumn (.undefinedName "y") 7), [("x", .int 1)]⟩] =
          earlier ++ [last] ∧ (last.scope = scopeAfter [] earlier ↔
            ∀ var count text, States (Source.lines "x = 1\nprint(y)".toList) (last.line - 1)
              (.loop var count text) → Underway last.line earlier →
                (scopeAfter [] earlier).get? var =
                  some (.int (progress last.line earlier).begun)) := by
  have returns : run Limits.standard "x = 1\nprint(y)".toList [] 0 none =
      .ok ⟨[⟨1, .assigned "x" "1", [("x", .int 1)]⟩,
          ⟨2, .failed (Fault.atColumn (.undefinedName "y") 7), [("x", .int 1)]⟩],
        some (Fault.atColumn (.undefinedName "y") 7)⟩ := by decide +kernel
  obtain ⟨earlier, last, shown, -, same⟩ := failed_scope_eq_iff returns rfl
  exact ⟨returns, earlier, last, shown, same⟩

/-- A run whose limit refuses the second time of a loop shows its variable set to 1, while
    the step before shows it set to 0. -/
theorem failed_scope_second_time :
    ∃ response earlier last,
      run ⟨3, 10000⟩ "for i in range(3):\n    print(i)".toList [] 0 none = .ok response ∧
        response.error.isSome ∧ response.trace = earlier ++ [last] ∧
          last.scope ≠ scopeAfter [] earlier :=
  ⟨⟨[⟨1, .looping 3, []⟩, ⟨1, .iteration "i" 0, [("i", .int 0)]⟩,
      ⟨2, .printed "0", [("i", .int 0)]⟩,
      ⟨1, .failed (Fault.bare (.tooManySteps 3)), [("i", .int 1)]⟩],
      some (Fault.bare (.tooManySteps 3))⟩,
    [⟨1, .looping 3, []⟩, ⟨1, .iteration "i" 0, [("i", .int 0)]⟩,
      ⟨2, .printed "0", [("i", .int 0)]⟩],
    ⟨1, .failed (Fault.bare (.tooManySteps 3)), [("i", .int 1)]⟩,
    by decide +kernel, rfl, rfl, by decide⟩

end

end StepTrace
