import StepTrace.Proofs.Literal
import StepTrace.Proofs.Machine.Simulation

/-!
# Runs that leave no trace

Where the machine stops without a response. An integer with too many digits is read, or
it would have to be shown in a prompt, in the header of a loop or in the refusal of a
loop or a step. Whatever else goes wrong is a fault, which the response reports.
-/

namespace StepTrace.Machine

variable {limits : Limits} {lines : List Line} {config : Config} {abort : Abort}

/-- A step is due for which there is no room: that of the line at the cursor, that of the
    first time of a loop after its header, or that of another time. -/
inductive Overdrawn [CharacterNames] (limits : Limits) (lines : List Line) (config : Config) : Prop
  | line {line : Line} (comes : Comes lines config line) (full : config.Full limits)
  | first {line : Line} {var : String} {limit : Expr} {text : List Char} {count : Nat}
      {scope : Scope} (comes : Reads limits lines config line (.loop var limit text))
      (does : Run.effect limits config.scope (.loop var limit text) = .ok (.looping count, scope))
      (runs : 0 < count) (full : (config.after (.looping count) scope).Full limits)
  | another {loop : OpenLoop} {outer : List OpenLoop} (ends : config.bodyEnd? = some (loop, outer))
      (more : loop.next < loop.count) (full : config.Full limits)

/-- The machine stops without a response. The reader of a line comes to an integer with too
    many digits, or an integer with too many digits would have to be shown: in a prompt, by
    the header or the refusal of a loop, or as the limit by the step that it refuses. -/
inductive Aborts [CharacterNames] (limits : Limits) (lines : List Line) (config : Config) :
    Abort → Prop
  | literal {line : Line} {tokens : Tokens} {abort : Abort} (comes : Comes lines config line)
      (room : ¬ config.Full limits) (scanned : Tokens.ofLine line.content = .ok tokens)
      (long : AnyOverlong tokens.list abort)
      (fails : Statement.ofLine line.content = .error (.abort abort)) :
      Aborts limits lines config abort
  | shown {line : Line} {statement : Statement}
      (comes : Reads limits lines config line statement)
      (long : Run.Unshowable limits config.scope statement) :
      Aborts limits lines config .textTooLong
  | limit (overdrawn : Overdrawn limits lines config) (long : Run.TooLong limits.steps) :
      Aborts limits lines config .textTooLong

private theorem stepLimit_eq_abort :
    Run.stepLimit limits = .abort abort ↔ abort = .textTooLong ∧ Run.TooLong limits.steps := by
  simp [Run.stepLimit, Run.showing_eq_abort]

private theorem Overdrawn.stops [CharacterNames] (overdrawn : Overdrawn limits lines config) :
    ∃ place scope,
      Stops limits lines config (config.refuse place scope (Run.stepLimit limits)) := by
  cases overdrawn with
  | line comes full => exact ⟨_, _, .full comes full⟩
  | first comes does runs full => exact ⟨_, _, .crowded comes does runs full⟩
  | another ends more full => exact ⟨_, _, .cut ends more full⟩

private theorem Aborts.of_overdrawn [CharacterNames] {place : Nat} {scope : Scope}
    (overdrawn : Overdrawn limits lines config)
    (refused : config.refuse place scope (Run.stepLimit limits) = .error abort) :
    Aborts limits lines config abort := by
  obtain ⟨rfl, long⟩ := stepLimit_eq_abort.mp (Config.refuse_eq_error.mp refused)
  exact .limit overdrawn long

private theorem Stops.aborts [CharacterNames] {result : Except Abort Response}
    (stops : Stops limits lines config result) (aborted : result = .error abort) :
    Aborts limits lines config abort := by
  cases stops with
  | finished | asked => cases aborted
  | full comes full => exact .of_overdrawn (.line comes full) aborted
  | crowded comes does runs full => exact .of_overdrawn (.first comes does runs full) aborted
  | cut ends more full => exact .of_overdrawn (.another ends more full) aborted
  | unread comes room fails =>
    obtain rfl := Config.refuse_eq_error.mp aborted
    obtain ⟨tokens, scanned, long⟩ := Statement.ofLine_abort fails
    exact .literal comes room scanned long fails
  | undone comes fails =>
    obtain rfl := Config.refuse_eq_error.mp aborted
    obtain ⟨rfl, long⟩ := Run.effect_eq_abort.mp fails
    exact .shown comes long

private theorem Aborts.stops [CharacterNames] (aborts : Aborts limits lines config abort) :
    Stops limits lines config (.error abort) := by
  cases aborts with
  | literal comes room _ _ fails => exact .unread comes room fails
  | shown comes long => exact .undone comes (Run.effect_eq_abort.mpr ⟨rfl, long⟩)
  | limit overdrawn long =>
    obtain ⟨place, scope, stops⟩ := overdrawn.stops
    rwa [Config.refuse_eq_error.mpr (stepLimit_eq_abort.mpr ⟨rfl, long⟩)] at stops

/-- These are all the ways in which the machine stops without a response. -/
theorem stops_error_iff [CharacterNames] :
    Stops limits lines config (.error abort) ↔ Aborts limits lines config abort :=
  ⟨fun stops => stops.aborts rfl, Aborts.stops⟩

/-- A run that starts at a line and is given an answer to a variable returns a response
    exactly where the machine comes to no integer with too many digits that is read, or
    shown in anything but a value of the program. -/
theorem run_returns_iff [CharacterNames] {code : List Char} {scope : Scope} {start : Int}
    {answer : Option Answer} (forward : 0 ≤ start)
    (named : ∀ given ∈ answer, Text.isIdentifier given.target.toList = true) :
    (∃ response, run limits code scope start answer = .ok response) ↔
      ∀ config abort,
        Reaches limits (Source.lines code) (entry start.toNat (entered scope answer)) config →
          ¬ Aborts limits (Source.lines code) config abort := by
  have ends : Ends limits (Source.lines code) (entry start.toNat (entered scope answer))
      (run limits code scope start answer) := ends_run limits code forward named
  constructor
  · rintro ⟨response, returns⟩ config abort reaches aborts
    rw [returns] at ends
    have same := ends.unique ⟨config, reaches, aborts.stops⟩
    cases same
  · intro never
    cases returned : run limits code scope start answer with
    | ok response => exact ⟨response, rfl⟩
    | error abort =>
      rw [returned] at ends
      obtain ⟨config, reaches, stops⟩ := ends
      exact absurd (stops_error_iff.mp stops) (never config abort reaches)

section
attribute [local instance] CharacterNames.unnamed

/-- A program that returns a response, and that nothing aborts. -/
theorem run_returns_iff_assignment :
    run Limits.standard "x = 1".toList [] 0 none =
        .ok ⟨[⟨1, .assigned "x" "1", [("x", .int 1)]⟩], none⟩ ∧
      ∀ config abort, Reaches Limits.standard (Source.lines "x = 1".toList) (entry 0 []) config →
        ¬ Aborts Limits.standard (Source.lines "x = 1".toList) config abort := by
  have returns : run Limits.standard "x = 1".toList [] 0 none =
      .ok ⟨[⟨1, .assigned "x" "1", [("x", .int 1)]⟩], none⟩ := by decide +kernel
  have named : ∀ given ∈ (none : Option Answer), Text.isIdentifier given.target.toList = true := by
    simp
  exact ⟨returns, (run_returns_iff (Int.le_refl 0) named).mp ⟨_, returns⟩⟩

/-- A prompt that is an integer with too many digits leaves no response. -/
theorem run_aborts_long_prompt :
    ¬ ∃ response, run Limits.standard "x = input(y * y)".toList [("y", .int (Nat.pow 10 2200))] 0 none =
      .ok response := by
  have aborted : run Limits.standard "x = input(y * y)".toList [("y", .int (Nat.pow 10 2200))] 0 none =
      .error .textTooLong := by decide +kernel
  rintro ⟨response, returns⟩
  rw [aborted] at returns
  cases returns

end

end StepTrace.Machine
