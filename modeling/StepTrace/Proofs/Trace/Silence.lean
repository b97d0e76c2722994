import StepTrace.Proofs.Machine.Invariant

/-!
# Runs that record nothing

A run has an empty trace exactly where all of its lines are blank or comments.
-/

namespace StepTrace

open Machine

variable {limits : Limits} {lines : List Line} {before : Scope} {start : Nat}
  {config next : Config} {response : Response}

/-- A machine that has recorded nothing has passed only lines that do nothing. -/
private def Quiet (lines : List Line) (start : Nat) (config : Config) : Prop :=
  config.trace = [] → config.loops = [] ∧
    ∀ place line, start ≤ place → place < config.cursor → lines[place]? = some line →
      line.isInert = true

private theorem Quiet.turn [CharacterNames] (quiet : Quiet lines start config)
    (moves : Moves limits lines config next) : Quiet lines start next := by
  intro empty
  cases moves with
  | skip inside here inert =>
    obtain ⟨closed, passed⟩ := quiet empty
    refine ⟨closed, fun place line started before there => ?_⟩
    rcases Nat.lt_succ_iff_lt_or_eq.mp before with earlier | rfl
    · exact passed place line started earlier there
    · rw [here, Option.some.injEq] at there
      exact there ▸ inert
  | perform | idle => simp [Config.after] at empty
  | begin | again => simp [Config.enter] at empty
  | leave ends =>
    have closed := (quiet empty).1
    rw [(Config.bodyEnd?_eq_some.mp ends).1] at closed
    cases closed

private theorem Machine.Reaches.quiet [CharacterNames]
    (reaches : Reaches limits lines (entry start before) config) : Quiet lines start config :=
  reaches.invariant (fun _ => Quiet.turn)
    fun _ => ⟨rfl, fun _ _ started passed => absurd passed (Nat.not_lt.mpr started)⟩

/-- The lines from a place on do nothing. -/
def Idle (lines : List Line) (start : Nat) : Prop := ∀ line ∈ lines.drop start, line.isInert = true

private theorem Idle.not_comes {line : Line} (idle : Idle lines start)
    (started : start ≤ config.cursor) : ¬ Comes lines config line := by
  intro comes
  have member : line ∈ lines.drop start := by
    refine List.mem_of_getElem? (i := config.cursor - start) ?_
    rw [List.getElem?_drop, Nat.add_sub_of_le started]
    exact comes.here
  exact absurd (idle line member) (by simp [comes.active])

/-- A machine that has recorded nothing and begun no loop. -/
private def Untouched (config : Config) : Prop := config.trace = [] ∧ config.loops = []

private theorem Idle.turn [CharacterNames] (idle : Idle lines start)
    (reaches : Reaches limits lines (entry start before) config) (untouched : Untouched config)
    (moves : Moves limits lines config next) : Untouched next := by
  have started := reaches.sound.started
  cases moves with
  | skip => exact untouched
  | perform comes | idle comes | begin comes => exact absurd comes.toComes (idle.not_comes started)
  | again ends | leave ends =>
    have loops := (Config.bodyEnd?_eq_some.mp ends).1
    rw [untouched.2] at loops
    cases loops

private theorem Idle.untouched [CharacterNames] (idle : Idle lines start)
    (reaches : Reaches limits lines (entry start before) config) : Untouched config :=
  reaches.invariant idle.turn ⟨rfl, rfl⟩

private theorem Quiet.idle (quiet : Quiet lines start config) (empty : config.trace = [])
    (past : lines[config.cursor]? = none) : Idle lines start := by
  intro line member
  obtain ⟨offset, here⟩ := List.mem_iff_getElem?.mp member
  rw [List.getElem?_drop] at here
  refine (quiet empty).2 (start + offset) line (Nat.le_add_right ..) ?_ here
  have inside := (List.getElem?_eq_some_iff.mp here).1
  have outside := List.getElem?_eq_none_iff.mp past
  omega

private theorem refuse_trace_ne_nil {place : Nat} {scope : Scope} {failure : Failure}
    (refused : config.refuse place scope failure = .ok response) : response.trace ≠ [] := by
  obtain ⟨fault, -, rfl⟩ := Config.refuse_eq_ok.mp refused
  simp

private theorem Machine.Stops.trace_eq_nil_iff [CharacterNames] {result : Except Abort Response}
    (reaches : Reaches limits lines (entry start before) config)
    (stops : Stops limits lines config result) (returns : result = .ok response) :
    response.trace = [] ↔ Idle lines start := by
  have started := reaches.sound.started
  cases stops with
  | finished inside past =>
    obtain rfl := Except.ok.inj returns
    exact ⟨fun empty => reaches.quiet.idle empty past, fun idle => (idle.untouched reaches).1⟩
  | asked comes =>
    obtain rfl := Except.ok.inj returns
    exact ⟨by simp [Config.after], fun idle => absurd comes.toComes (idle.not_comes started)⟩
  | full comes | unread comes =>
    exact ⟨fun empty => absurd empty (refuse_trace_ne_nil returns),
      fun idle => absurd comes (idle.not_comes started)⟩
  | undone comes | crowded comes =>
    exact ⟨fun empty => absurd empty (refuse_trace_ne_nil returns),
      fun idle => absurd comes.toComes (idle.not_comes started)⟩
  | cut ends =>
    refine ⟨fun empty => absurd empty (refuse_trace_ne_nil returns), fun idle => ?_⟩
    have loops := (Config.bodyEnd?_eq_some.mp ends).1
    rw [(idle.untouched reaches).2] at loops
    cases loops

/-- A run records nothing exactly where its lines do nothing. -/
theorem run_trace_eq_nil_iff [CharacterNames] {code : List Char} {scope : Scope} {start : Int}
    {answer : Option Answer} (returns : run limits code scope start answer = .ok response) :
    response.trace = [] ↔ Idle (Source.lines code) start.toNat := by
  obtain ⟨-, config, reaches, stops⟩ := ends_of_run_eq_ok returns
  exact stops.trace_eq_nil_iff reaches rfl

end StepTrace
