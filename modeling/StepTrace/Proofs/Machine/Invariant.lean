import StepTrace.Proofs.Machine.Simulation

/-!
# What every turn keeps

The scope of the machine is always that of its last step. The open loops were begun at
headers before the cursor, at or after the first line, and the inner ones begin after
the outer ones.
-/

namespace StepTrace.Machine

variable {limits : Limits} {lines : List Line} {before : Scope} {trace : List Step}
  {config next : Config} {start : Nat}

/-- The variables after a trace that began with some variables. -/
def scopeAfter (before : Scope) (trace : List Step) : Scope :=
  (trace.getLast?.map Step.scope).getD before

@[simp] theorem scopeAfter_nil (before : Scope) : scopeAfter before [] = before := rfl

@[simp] theorem scopeAfter_concat (before : Scope) (trace : List Step) (step : Step) :
    scopeAfter before (trace ++ [step]) = step.scope := by
  simp [scopeAfter]

/-- The line at a place is neither blank nor a comment and reads as a statement. -/
def States [CharacterNames] (lines : List Line) (place : Nat) (statement : Statement) : Prop :=
  ∃ line, lines[place]? = some line ∧ line.isInert = false ∧
    Statement.ofLine line.content = .ok statement

theorem States.unique [CharacterNames] {place : Nat} {first second : Statement}
    (one : States lines place first) (other : States lines place second) : first = second := by
  obtain ⟨line, here, -, reads⟩ := one
  obtain ⟨same, there, -, rereads⟩ := other
  rw [here, Option.some.injEq] at there
  subst there
  rw [reads, Except.ok.injEq] at rereads
  exact rereads

theorem States.inside [CharacterNames] {place : Nat} {statement : Statement}
    (states : States lines place statement) : place < lines.length := by
  obtain ⟨line, here, -⟩ := states
  exact (List.getElem?_eq_some_iff.mp here).1

theorem Reads.states [CharacterNames] {line : Line} {statement : Statement}
    (comes : Reads limits lines config line statement) : States lines config.cursor statement :=
  ⟨line, comes.here, comes.active, comes.reads⟩

/-- An open loop goes back to its header, which stands between two places. -/
structure OpenLoop.Stands [CharacterNames] (lines : List Line) (start cursor : Nat)
    (loop : OpenLoop) : Prop where
  started : start ≤ loop.header
  passed : loop.header < cursor
  header : ∃ count text, States lines loop.header (.loop loop.var count text)

/-- What every turn keeps of a machine that began at a line with some variables. -/
structure Sound [CharacterNames] (lines : List Line) (start : Nat) (before : Scope)
    (config : Config) : Prop where
  linked : config.scope = scopeAfter before config.trace
  started : start ≤ config.cursor
  stands : ∀ loop ∈ config.loops, loop.Stands lines start config.cursor
  nested : config.loops.Pairwise fun inner outer => outer.header < inner.header

theorem lt_blockEnd (lines : List Line) (header indent : Nat) :
    header < blockEnd lines header indent := by
  unfold blockEnd
  omega

theorem OpenLoop.Stands.forward [CharacterNames] {loop : OpenLoop} {cursor later : Nat}
    (stands : loop.Stands lines start cursor) (passed : cursor ≤ later) :
    loop.Stands lines start later :=
  { stands with passed := by have := stands.passed; omega }

private theorem Sound.forward [CharacterNames] {cursor : Nat}
    (sound : Sound lines start before config)
    (passed : config.cursor ≤ cursor) : Sound lines start before { config with cursor } :=
  { sound with
    started := Nat.le_trans sound.started passed
    stands := fun loop isOpen => (sound.stands loop isOpen).forward passed }

private theorem Sound.after [CharacterNames] {event : Event} {scope : Scope}
    (sound : Sound lines start before config) :
    Sound lines start before (config.after event scope) :=
  { sound with linked := by simp [Config.after] }

/-- Another time of a loop leaves the loops around it as they are. -/
private theorem sound_enter [CharacterNames] {loop : OpenLoop} {outer : List OpenLoop}
    (started : start ≤ loop.header)
    (header : ∃ count text, States lines loop.header (.loop loop.var count text))
    (stands : ∀ other ∈ outer, other.Stands lines start loop.header)
    (nested : outer.Pairwise fun inner outer => outer.header < inner.header) :
    Sound lines start before (config.enter loop outer) where
  linked := by simp [Config.enter]
  started := by
    simp only [Config.enter]
    omega
  stands := by
    intro other isOpen
    rcases List.mem_cons.mp isOpen with rfl | around
    · exact ⟨started, by simp [Config.enter], header⟩
    · exact (stands other around).forward (by simp [Config.enter])
  nested := List.pairwise_cons.mpr ⟨fun other around => (stands other around).passed, nested⟩

theorem Sound.turn [CharacterNames] (sound : Sound lines start before config)
    (moves : Moves limits lines config next) : Sound lines start before next := by
  cases moves with
  | skip => exact sound.forward (Nat.le_succ _)
  | perform => exact sound.after.forward (Nat.le_succ _)
  | idle => exact sound.after.forward (Nat.le_of_lt (lt_blockEnd ..))
  | begin comes =>
    exact sound_enter sound.started ⟨_, _, comes.states⟩ sound.stands sound.nested
  | @again loop outer ends =>
    obtain ⟨loops, -⟩ := Config.bodyEnd?_eq_some.mp ends
    have stands := sound.stands
    have nested := sound.nested
    rw [loops] at stands nested
    obtain ⟨inside, outerNested⟩ := List.pairwise_cons.mp nested
    have own := stands loop List.mem_cons_self
    refine sound_enter own.started own.header (fun other around => ?_) outerNested
    exact { stands other (List.mem_cons_of_mem loop around) with passed := inside other around }
  | @leave loop outer ends =>
    obtain ⟨loops, -⟩ := Config.bodyEnd?_eq_some.mp ends
    have stands := sound.stands
    have nested := sound.nested
    rw [loops] at stands nested
    exact { sound with
      stands := fun other around => stands other (List.mem_cons_of_mem loop around)
      nested := (List.pairwise_cons.mp nested).2 }

/-- The machine is sound wherever it comes to. -/
theorem Reaches.sound [CharacterNames]
    (reaches : Reaches limits lines (entry start before) config) :
    Sound lines start before config :=
  reaches.invariant (fun _ => Sound.turn) ⟨rfl, Nat.le_refl _, by simp [entry], by simp [entry]⟩

end StepTrace.Machine
