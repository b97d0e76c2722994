import StepTrace.Proofs.Machine.Limits
import StepTrace.Proofs.Machine.Records

/-!
# Limits only cut a run short

Under wider limits a run that fails on no limit is the same, and one that does goes on from
where it was cut (`run_of_le`). The step limit keeps as many steps as it allows. It keeps one
less exactly where it refuses the first time of a loop, since the failure takes the place of
the header then.
-/

namespace StepTrace

/-- The steps of a run without a failure at their end. -/
def Response.carriedOut (response : Response) : List Step :=
  response.trace.filter fun step => !step.isError

/-- A place of a trace where a loop begins its first time. -/
def FirstTimeAt (steps : List Step) (place : Nat) : Prop :=
  ∃ line var scope, steps[place]? = some ⟨line, .iteration var 0, scope⟩

theorem Concludes.carriedOut {trace : List Step} {response : Response}
    (concludes : Concludes trace response) (going : ∀ step ∈ trace, step.stops = false) :
    trace <+: response.carriedOut ∧ (response.error.isSome → response.carriedOut = trace) := by
  have kept : trace.filter (fun step => !step.isError) = trace := by
    refine List.filter_eq_self.mpr fun step member => ?_
    simp [(Step.stops_eq_false.mp (going step member)).1]
  cases concludes with
  | completed => simp [Response.carriedOut, kept]
  | paused => simp [Response.carriedOut, kept]
  | failed =>
    rw [Response.carriedOut, List.filter_append, kept]
    exact ⟨List.prefix_append .., fun _ => List.append_nil _⟩

namespace Machine

variable {limits wide : Limits} {lines : List Line} {config next : Config} {before : Scope}
  {start : Nat} {short long : Response} {line : Line}

/-- There is room for the header of a loop that runs, and none for its first time. -/
def HeaderAlone [CharacterNames] (limits : Limits) (lines : List Line) (config : Config) : Prop :=
  ∃ line var limit text count scope, Reads limits lines config line (.loop var limit text) ∧
    Run.effect limits config.scope (.loop var limit text) = .ok (.looping count, scope) ∧
    0 < count ∧ (config.after (.looping count) scope).Full limits

/-- A run that the step limit cuts where the machine has come to, next to one with more room. -/
structure CutShort [CharacterNames] (limits wide : Limits) (lines : List Line) (config : Config)
    (short long : Response) : Prop where
  due : Overdrawn limits lines config
  carriedOut : short.carriedOut = config.trace
  full : ¬ HeaderAlone limits lines config → (short.carriedOut.length : Int) = max limits.steps 0
  header : HeaderAlone limits lines config →
    (short.carriedOut.length : Int) + 1 = max limits.steps 0 ∧
      short.trace = config.trace ++
        [⟨config.cursor + 1, .failed (Fault.bare (.tooManySteps limits.steps)), config.scope⟩]
  /-- Where there is more room, what the limit refuses comes next. -/
  refused : max limits.steps 0 < wide.steps →
    (HeaderAlone limits lines config ↔ FirstTimeAt long.trace (max limits.steps 0).toNat)

/-! ## How much is recorded -/

theorem Overdrawn.full_of_not_headerAlone [CharacterNames] (due : Overdrawn limits lines config)
    (other : ¬ HeaderAlone limits lines config) : config.Full limits := by
  cases due with
  | line _ full | another _ _ full => exact full
  | first comes does runs full => exact absurd ⟨_, _, _, _, _, _, comes, does, runs, full⟩ other

theorem Reaches.length_of_full [CharacterNames]
    (reaches : Reaches limits lines (entry start before) config)
    (full : config.Full limits) : (config.trace.length : Int) = max limits.steps 0 := by
  have within := reaches.length_le
  unfold Config.Full at full
  omega

theorem HeaderAlone.length [CharacterNames] (alone : HeaderAlone limits lines config) :
    (config.trace.length : Int) + 1 = max limits.steps 0 := by
  obtain ⟨line, var, limit, text, count, scope, comes, -, -, full⟩ := alone
  have room := comes.room
  simp only [Config.Full, Config.after, List.length_append, List.length_singleton] at room full
  omega

theorem HeaderAlone.replaced [CharacterNames] (alone : HeaderAlone limits lines config)
    (stops : Stops limits lines config (.ok short)) :
    short.trace = config.trace ++
      [⟨config.cursor + 1, .failed (Fault.bare (.tooManySteps limits.steps)), config.scope⟩] := by
  obtain ⟨line, var, limit, text, count, scope, comes, does, runs, full⟩ := alone
  have refused := (Stops.crowded comes does runs full).advance.symm.trans stops.advance
  rw [Config.refuse_stepLimit_eq_ok (Turn.halt.inj refused)]

/-! ## What comes next -/

theorem Reaches.begun [CharacterNames]
    (reaches : Reaches limits lines (entry start before) config) :
    ∀ loop ∈ config.loops, 0 < loop.next := by
  induction reaches with
  | refl => simp [entry]
  | tail _ moves ih =>
    cases moves with
    | skip | perform | idle => exact ih
    | begin =>
      intro loop isOpen
      rcases List.mem_cons.mp isOpen with rfl | around
      · exact Nat.succ_pos _
      · exact ih loop around
    | again ends =>
      rw [(Config.bodyEnd?_eq_some.mp ends).1] at ih
      intro loop isOpen
      rcases List.mem_cons.mp isOpen with rfl | around
      · exact Nat.succ_pos _
      · exact ih loop (List.mem_cons_of_mem _ around)
    | leave ends =>
      rw [(Config.bodyEnd?_eq_some.mp ends).1] at ih
      exact fun loop isOpen => ih loop (List.mem_cons_of_mem _ isOpen)

theorem Moves.trace_grows [CharacterNames] (moves : Moves limits lines config next)
    (ends : Ends limits lines config (.ok long)) : next.trace <+: long.trace := by
  obtain ⟨last, reaches, stops⟩ := Reaches.ends (.single moves) ends
  refine reaches.trace_grows.trans ?_
  cases stops.concludes rfl with
  | completed => exact List.prefix_refl _
  | paused | failed => exact List.prefix_append ..

private theorem getElem?_of_grows {trace more : List Step} {step : Step}
    (grows : trace ++ step :: more <+: long.trace) : long.trace[trace.length]? = some step := by
  obtain ⟨later, whole⟩ := grows
  simp [← whole]

private theorem not_firstTimeAt_of_grows {trace more : List Step} {step : Step}
    (grows : trace ++ step :: more <+: long.trace)
    (other : ∀ var, step.event ≠ .iteration var 0) : ¬ FirstTimeAt long.trace trace.length := by
  rintro ⟨number, var, scope, here⟩
  rw [getElem?_of_grows grows, Option.some.injEq] at here
  exact other var (by rw [here])

private theorem event_ne_iteration {statement : Statement} {event : Event} {scope after : Scope}
    (does : Run.effect limits scope statement = .ok (event, after)) (var : String) (index : Nat) :
    event ≠ .iteration var index := by
  cases Run.leaves_of_effect does with
  | question | assignment | print | loop => simp

private theorem not_firstTimeAt_refuse {place : Nat} {scope : Scope} {failure : Failure}
    (refused : config.refuse place scope failure = .ok long) :
    ¬ FirstTimeAt long.trace config.trace.length := by
  obtain ⟨fault, -, rfl⟩ := Config.refuse_eq_ok.mp refused
  exact not_firstTimeAt_of_grows (List.prefix_refl _) nofun

/-- A line that does something records a step of its own before any time of a loop. -/
theorem Comes.not_firstTimeAt [CharacterNames] (comes : Comes lines config line)
    (ends : Ends wide lines config (.ok long)) : ¬ FirstTimeAt long.trace config.trace.length := by
  rcases moves_or_stops wide lines config with ⟨next, moves⟩ | ⟨result, stops⟩
  · have grows := moves.trace_grows ends
    cases moves with
    | skip _ here inert =>
      rw [comes.here, Option.some.injEq] at here
      subst here
      rw [comes.active] at inert
      cases inert
    | perform _ _ does => exact not_firstTimeAt_of_grows grows fun var => event_ne_iteration does var 0
    | idle => exact not_firstTimeAt_of_grows grows (by simp)
    | begin =>
      rw [Config.enter, Config.after, List.append_assoc] at grows
      exact not_firstTimeAt_of_grows grows (by simp)
    | again ends | leave ends =>
      rw [comes.inside] at ends
      cases ends
  · have returns := ends.unique ⟨config, .refl, stops⟩
    cases stops with
    | finished _ past =>
      rw [comes.here] at past
      cases past
    | asked _ does =>
      obtain rfl := Except.ok.inj returns
      exact not_firstTimeAt_of_grows (List.prefix_refl _) fun var => event_ne_iteration does var 0
    | full | unread | undone | crowded => exact not_firstTimeAt_refuse returns.symm
    | cut ends =>
      rw [comes.inside] at ends
      cases ends

/-- Where there is room for both, the first time of a loop comes after its header. -/
theorem HeaderAlone.firstTimeAt [CharacterNames] (alone : HeaderAlone limits lines config)
    (wider : limits ≤ wide)
    (room : max limits.steps 0 < wide.steps) (ends : Ends wide lines config (.ok long)) :
    FirstTimeAt long.trace (config.trace.length + 1) := by
  have length := alone.length
  obtain ⟨line, var, limit, text, count, scope, comes, does, runs, -⟩ := alone
  have fits : ¬ (config.after (.looping count) scope).Full wide := by
    simp only [Config.Full, Config.after, List.length_append, List.length_singleton]
    omega
  have moves := Moves.begin (comes.of_le wider) (Run.effect_ok_of_le wider does) runs fits
  have recorded := getElem?_of_grows (moves.trace_grows ends)
  rw [Config.after, List.length_append, List.length_singleton] at recorded
  exact ⟨_, _, _, recorded⟩

/-- What is due and is no first time comes next where there is room for it, and is none. -/
theorem Overdrawn.not_firstTimeAt [CharacterNames] (due : Overdrawn limits lines config)
    (reaches : Reaches limits lines (entry start before) config)
    (other : ¬ HeaderAlone limits lines config) (room : ¬ config.Full wide)
    (ends : Ends wide lines config (.ok long)) : ¬ FirstTimeAt long.trace config.trace.length := by
  cases due with
  | line comes => exact comes.not_firstTimeAt ends
  | first comes does runs full => exact absurd ⟨_, _, _, _, _, _, comes, does, runs, full⟩ other
  | @another loop _ bodyEnds more =>
    have begun : 0 < loop.next :=
      reaches.begun loop (by simp [(Config.bodyEnd?_eq_some.mp bodyEnds).1])
    apply not_firstTimeAt_of_grows ((Moves.again bodyEnds more room).trace_grows ends)
    intro var same
    obtain ⟨-, first⟩ := Event.iteration.inj same
    omega

/-! ## Where the run is cut -/

theorem Stops.cutShort [CharacterNames] (wider : limits ≤ wide)
    (reaches : Reaches limits lines (entry start before) config)
    (stops : Stops limits lines config (.ok short)) (spent : short.OutOfSteps)
    (ends : Ends wide lines config (.ok long)) : CutShort limits wide lines config short long := by
  have due : Overdrawn limits lines config := stops.overdrawn rfl spent
  have carriedOut : short.carriedOut = config.trace := by
    obtain ⟨fault, limit, failed, -⟩ := spent
    exact ((stops.concludes rfl).carriedOut reaches.goesOn).2 (by simp [failed])
  refine ⟨due, carriedOut, fun other => ?_, fun alone => ?_, fun room => ?_⟩
  · rw [carriedOut]
    exact reaches.length_of_full (due.full_of_not_headerAlone other)
  · rw [carriedOut]
    exact ⟨alone.length, alone.replaced stops⟩
  · -- Where there is room for the header alone, it is the second step from here that is refused.
    constructor
    · intro alone
      have place : (max limits.steps 0).toNat = config.trace.length + 1 := by
        have := alone.length
        omega
      rw [place]
      exact alone.firstTimeAt wider room ends
    · intro first
      by_contra other
      have length := reaches.length_of_full (due.full_of_not_headerAlone other)
      have place : (max limits.steps 0).toNat = config.trace.length := by omega
      have fits : ¬ config.Full wide := by
        unfold Config.Full
        omega
      rw [place] at first
      exact due.not_firstTimeAt reaches other fits ends first

end Machine

/-- Wider limits change nothing of a run that fails on no limit, and only continue one that
    does, from the step that was refused. -/
theorem run_of_le [CharacterNames] {limits wide : Limits} {code : List Char} {scope : Scope}
    {start : Int} {answer : Option Answer} {short long : Response} (wider : limits ≤ wide)
    (returns : run limits code scope start answer = .ok short)
    (returnsWide : run wide code scope start answer = .ok long) :
    (¬ short.OutOfBudget → short = long) ∧
      (short.OutOfBudget → short.carriedOut <+: long.carriedOut) ∧
      (short.OutOfSteps → ∃ config,
        Machine.Reaches limits (Source.lines code)
            (Machine.entry start.toNat (Machine.entered scope answer)) config ∧
          Machine.CutShort limits wide (Source.lines code) config short long) := by
  obtain ⟨-, config, reaches, stops⟩ := Machine.ends_of_run_eq_ok returns
  obtain ⟨-, ends⟩ := Machine.ends_of_run_eq_ok returnsWide
  refine ⟨fun within => ?_, fun spent => ?_, fun spent => ?_⟩
  · have same : Machine.Ends wide _ _ (.ok short) :=
      ⟨config, reaches.of_le wider, stops.of_le wider rfl within⟩
    exact Except.ok.inj (same.unique ends)
  · obtain ⟨fault, failed, -⟩ := spent
    obtain ⟨last, later, stopsLast⟩ := (reaches.of_le wider).ends ends
    rw [((stops.concludes rfl).carriedOut reaches.goesOn).2 (by simp [failed])]
    have goesOn := Machine.Reaches.goesOn ((reaches.of_le wider).trans later)
    exact later.trace_grows.trans ((stopsLast.concludes rfl).carriedOut goesOn).1
  · exact ⟨config, reaches, stops.cutShort wider reaches spent ((reaches.of_le wider).ends ends)⟩

section
attribute [local instance] CharacterNames.unnamed

/-- A limit that leaves room for the header of an inner loop alone, next to one with room for
    its first time. -/
theorem run_of_le_inner_header :
    ∃ short long,
      run ⟨3, 9⟩ "for i in range(2):\n  for j in range(2):\n    print(j)".toList [] 0 none =
          .ok short ∧
        run ⟨4, 9⟩ "for i in range(2):\n  for j in range(2):\n    print(j)".toList [] 0 none =
          .ok long ∧
        short.carriedOut.length = 2 ∧ long.carriedOut.length = 4 ∧
        short.carriedOut <+: long.carriedOut ∧
        ∃ config, Machine.CutShort ⟨3, 9⟩ ⟨4, 9⟩
          (Source.lines "for i in range(2):\n  for j in range(2):\n    print(j)".toList) config
          short long := by
  have returns : run ⟨3, 9⟩ "for i in range(2):\n  for j in range(2):\n    print(j)".toList [] 0
      none = .ok ⟨[⟨1, .looping 2, []⟩, ⟨1, .iteration "i" 0, [("i", .int 0)]⟩,
        ⟨2, .failed (Fault.bare (.tooManySteps 3)), [("i", .int 0)]⟩],
        some (Fault.bare (.tooManySteps 3))⟩ := by decide +kernel
  have returnsWide : run ⟨4, 9⟩ "for i in range(2):\n  for j in range(2):\n    print(j)".toList [] 0
      none = .ok ⟨[⟨1, .looping 2, []⟩, ⟨1, .iteration "i" 0, [("i", .int 0)]⟩,
        ⟨2, .looping 2, [("i", .int 0)]⟩, ⟨2, .iteration "j" 0, [("i", .int 0), ("j", .int 0)]⟩,
        ⟨3, .failed (Fault.bare (.tooManySteps 4)), [("i", .int 0), ("j", .int 0)]⟩],
        some (Fault.bare (.tooManySteps 4))⟩ := by decide +kernel
  have wider : (⟨3, 9⟩ : Limits) ≤ ⟨4, 9⟩ := ⟨by decide, by decide⟩
  obtain ⟨-, continued, cut⟩ := run_of_le wider returns returnsWide
  obtain ⟨config, -, short⟩ := cut ⟨_, _, rfl, rfl⟩
  exact ⟨_, _, returns, returnsWide, rfl, rfl, continued ⟨_, rfl, rfl⟩, config, short⟩

end

end StepTrace
