import StepTrace.Proofs.Machine.Invariant

/-!
# The progress of loops

How far the loop of a line has come can be read off the steps that the line recorded.
The machine keeps the same numbers on its stack, and a line whose loop is not open has
no time left that was announced.
-/

namespace StepTrace

open Machine

/-- How many times the loop of a line runs, and how many of them have begun. -/
structure Progress where
  count : Nat
  begun : Nat
  deriving DecidableEq, Repr

/-- A step of the line announces its loop or begins another time of it. -/
def Progress.after (line : Nat) (progress : Progress) (step : Step) : Progress :=
  if step.line = line then
    match step.event with
    | .looping count => ⟨count, 0⟩
    | .iteration _ index => { progress with begun := index + 1 }
    | _ => progress
  else progress

/-- How far a trace tells that the loop of a line has come. -/
def progress (line : Nat) (trace : List Step) : Progress :=
  trace.foldl (Progress.after line) ⟨0, 0⟩

/-- The loop of a line has announced more times than have begun. -/
def Underway (line : Nat) (trace : List Step) : Prop :=
  (progress line trace).begun < (progress line trace).count

variable {limits : Limits} {lines : List Line} {before : Scope} {trace : List Step} {start : Nat}
  {line number : Nat} {event : Event} {scope : Scope} {config next : Config}

theorem progress_concat (line : Nat) (trace : List Step) (step : Step) :
    progress line (trace ++ [step]) = (progress line trace).after line step :=
  List.foldl_append

/-- A step of another line tells nothing about a loop. -/
theorem progress_other (other : number ≠ line) :
    progress line (trace ++ [⟨number, event, scope⟩]) = progress line trace := by
  rw [progress_concat, Progress.after, if_neg other]

theorem progress_looping {count : Nat} :
    progress line (trace ++ [⟨line, .looping count, scope⟩]) = ⟨count, 0⟩ := by
  rw [progress_concat, Progress.after, if_pos rfl]

theorem progress_iteration {var : String} {index : Nat} :
    progress line (trace ++ [⟨line, .iteration var index, scope⟩]) =
      ⟨(progress line trace).count, index + 1⟩ := by
  rw [progress_concat, Progress.after, if_pos rfl]

/-- What a statement does that is no header tells nothing about any loop. -/
theorem progress_plain {statement : Statement} {config : Config} (plain : Plain statement)
    (does : Run.effect limits before statement = .ok (event, scope)) :
    progress line (config.after event scope).trace = progress line config.trace := by
  simp only [Config.after, progress_concat, Progress.after]
  cases Run.leaves_of_effect does with
  | assignment | print => exact ite_self _
  | question | loop => exact plain.elim

/-- The stack of the machine says how far the open loops have come, and no other loop
    is under way. -/
structure Tracked (config : Config) : Prop where
  runs : ∀ loop ∈ config.loops,
    progress (loop.header + 1) config.trace = ⟨loop.count, loop.next⟩
  rests : ∀ line, (∀ loop ∈ config.loops, loop.header + 1 ≠ line) → ¬ Underway line config.trace

/-- A step of the line at the cursor, where no loop is open that began there. -/
private theorem progress_stands [CharacterNames] {loop : OpenLoop} {cursor : Nat}
    (stands : loop.Stands lines start cursor) :
    progress (loop.header + 1) (trace ++ [⟨cursor + 1, event, scope⟩]) =
      progress (loop.header + 1) trace := by
  have passed := stands.passed
  exact progress_other (by omega)

private theorem Tracked.idle [CharacterNames] (tracked : Tracked config)
    (sound : Sound lines start before config) : Tracked (config.after (.looping 0) scope) where
  runs := fun loop isOpen => by
    rw [Config.after, progress_stands (sound.stands loop isOpen)]
    exact tracked.runs loop isOpen
  rests := fun line closed => by
    unfold Underway
    by_cases here : config.cursor + 1 = line
    · subst here
      rw [Config.after, progress_looping]
      exact Nat.lt_irrefl 0
    · rw [Config.after, progress_other here]
      exact tracked.rests line closed

private theorem Tracked.begin [CharacterNames] {var : String} {count past : Nat}
    (tracked : Tracked config) (sound : Sound lines start before config) :
    Tracked ((config.after (.looping count) scope).enter (config.opened var count past)
      config.loops) where
  runs := fun loop isOpen => by
    simp only [Config.enter, Config.after, Config.opened]
    rcases List.mem_cons.mp isOpen with rfl | around
    · rw [Config.opened, progress_iteration, progress_looping]
    · rw [progress_stands (sound.stands loop around), progress_stands (sound.stands loop around)]
      exact tracked.runs loop around
  rests := fun line closed => by
    obtain ⟨own, others⟩ := List.forall_mem_cons.mp closed
    have elsewhere : config.cursor + 1 ≠ line := own
    unfold Underway
    simp only [Config.enter, Config.after, Config.opened]
    rw [progress_other elsewhere, progress_other elsewhere]
    exact tracked.rests line others

private theorem Tracked.again [CharacterNames] {loop : OpenLoop} {outer : List OpenLoop}
    (tracked : Tracked config)
    (sound : Sound lines start before config) (loops : config.loops = loop :: outer) :
    Tracked (config.enter loop outer) where
  runs := fun other isOpen => by
    have runs := tracked.runs
    have nested := sound.nested
    rw [loops] at runs nested
    simp only [Config.enter]
    rcases List.mem_cons.mp isOpen with rfl | around
    · rw [progress_iteration, runs loop List.mem_cons_self]
    · have inside := (List.pairwise_cons.mp nested).1 other around
      rw [progress_other (by omega)]
      exact runs other (List.mem_cons_of_mem loop around)
  rests := fun line closed => by
    obtain ⟨elsewhere, others⟩ := List.forall_mem_cons.mp closed
    unfold Underway
    rw [Config.enter, progress_other elsewhere]
    refine tracked.rests line fun other isOpen => ?_
    rw [loops] at isOpen
    rcases List.mem_cons.mp isOpen with rfl | around
    · exact elsewhere
    · exact others other around

private theorem Tracked.leave {loop : OpenLoop} {outer : List OpenLoop} (tracked : Tracked config)
    (loops : config.loops = loop :: outer) (spent : ¬ loop.next < loop.count) :
    Tracked { config with loops := outer } where
  runs := fun other around => tracked.runs other (by simp [loops, around])
  rests := fun line closed => by
    by_cases here : loop.header + 1 = line
    · subst here
      unfold Underway
      rw [tracked.runs loop (by simp [loops])]
      exact spent
    · refine tracked.rests line fun other isOpen => ?_
      rw [loops] at isOpen
      rcases List.mem_cons.mp isOpen with rfl | around
      · exact here
      · exact closed other around

private theorem Tracked.turn [CharacterNames]
    (reaches : Reaches limits lines (entry start before) config)
    (tracked : Tracked config) (moves : Moves limits lines config next) : Tracked next := by
  cases moves with
  | skip => exact ⟨tracked.runs, tracked.rests⟩
  | perform _ plain does =>
    refine ⟨fun loop isOpen => ?_, fun line closed => ?_⟩
    · rw [progress_plain plain does]
      exact tracked.runs loop isOpen
    · unfold Underway
      rw [progress_plain plain does]
      exact tracked.rests line closed
  | idle =>
    obtain ⟨runs, rests⟩ := tracked.idle reaches.sound
    exact ⟨runs, rests⟩
  | begin => exact tracked.begin reaches.sound
  | again ends => exact tracked.again reaches.sound (Config.bodyEnd?_eq_some.mp ends).1
  | leave ends spent => exact tracked.leave (Config.bodyEnd?_eq_some.mp ends).1 spent

/-- The machine keeps track of its loops wherever it comes to. -/
theorem Machine.Reaches.tracked [CharacterNames]
    (reaches : Reaches limits lines (entry start before) config) : Tracked config :=
  reaches.invariant Tracked.turn
    ⟨by simp [entry], fun line _ => by simp [entry, Underway, progress]⟩

end StepTrace
