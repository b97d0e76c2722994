import StepTrace.Proofs.Machine.Records
import StepTrace.Proofs.Run.Mirror

/-!
# The machine at the end of a longer program

Lines that stand at the end of a longer program are run there as they are run alone. Every
place lies further on by the lines before them, and every step comes after those that were
recorded by then, which take their part of the step limit (`Ends.relocated`).
-/

namespace StepTrace

/-- A response after earlier steps, of lines that stand further on. -/
def Response.relocated (distance : Nat) (prior : List Step) (response : Response) : Response :=
  { response with trace := prior ++ response.trace.map (Step.moved (· + distance)) }

namespace Machine

/-- A loop that was begun further on. -/
def OpenLoop.relocated (distance : Nat) (loop : OpenLoop) : OpenLoop :=
  { loop with header := loop.header + distance, past := loop.past + distance }

/-- The machine further on in a longer program, after earlier steps. -/
def Config.relocated (distance : Nat) (prior : List Step) (config : Config) : Config where
  cursor := config.cursor + distance
  loops := config.loops.map (OpenLoop.relocated distance)
  scope := config.scope
  trace := prior ++ config.trace.map (Step.moved (· + distance))

/-- Lines stand at the end of a longer program, after so many others. -/
def Closes (lines : List Line) (distance : Nat) (whole : List Line) : Prop :=
  whole.drop distance = lines.map (Line.moved (· + distance))

/-- The step limit leaves room for so many steps after the earlier ones, if there are any. -/
def Spares (limits : Limits) (prior : List Step) (count : Nat) : Prop :=
  prior = [] ∨ ((prior.length + count : Nat) : Int) ≤ limits.steps

variable {limits : Limits} {lines whole : List Line} {distance : Nat} {prior : List Step}
  {config next last : Config} {line : Line} {loop : OpenLoop} {outer : List OpenLoop}

theorem Spares.mono {count more : Nat} (spares : Spares limits prior more) (fewer : count ≤ more) :
    Spares limits prior count := by
  rcases spares with none | fits
  · exact .inl none
  · exact .inr (by omega)

/-! ## Places -/

theorem Closes.getElem? (closes : Closes lines distance whole) (place : Nat) :
    whole[place + distance]? = lines[place]?.map (Line.moved (· + distance)) := by
  rw [← List.getElem?_map, ← closes, List.getElem?_drop, Nat.add_comm]

theorem Closes.blockEnd (closes : Closes lines distance whole) (header indent : Nat) :
    blockEnd whole (header + distance) indent = blockEnd lines header indent + distance := by
  have further : header + distance + 1 = distance + (header + 1) := by omega
  unfold Machine.blockEnd
  rw [further, ← List.drop_drop, closes, ← List.map_drop, List.takeWhile_map, List.length_map]
  have same : Source.continues indent ∘ Line.moved (· + distance) = Source.continues indent := rfl
  rw [same]
  omega

theorem Config.bodyEnd?_relocated :
    (config.relocated distance prior).bodyEnd? =
      config.bodyEnd?.map fun (loop, outer) =>
        (loop.relocated distance, outer.map (OpenLoop.relocated distance)) := by
  unfold bodyEnd? relocated
  cases config.loops with
  | nil => rfl
  | cons loop outer =>
    by_cases ended : config.cursor = loop.past
    · simp [OpenLoop.relocated, ended]
    · simp [OpenLoop.relocated, ended]

theorem Config.inside_relocated (inside : config.bodyEnd? = none) :
    (config.relocated distance prior).bodyEnd? = none := by
  rw [bodyEnd?_relocated, inside]
  rfl

theorem Config.ends_relocated (ends : config.bodyEnd? = some (loop, outer)) :
    (config.relocated distance prior).bodyEnd? =
      some (loop.relocated distance, outer.map (OpenLoop.relocated distance)) := by
  rw [bodyEnd?_relocated, ends]
  rfl

/-! ## Room -/

/-- The earlier steps take up room. -/
theorem Config.Full.relocated (full : config.Full limits) :
    (config.relocated distance prior).Full limits := by
  unfold Config.Full at full ⊢
  simp only [Config.relocated, List.length_append, List.length_map]
  omega

/-- There is room for one more step where the limit spares room for it. -/
theorem Config.room_relocated (spares : Spares limits prior (config.trace.length + 1))
    (room : ¬ config.Full limits) : ¬ (config.relocated distance prior).Full limits := by
  unfold Config.Full at room ⊢
  simp only [Config.relocated, List.length_append, List.length_map]
  rcases spares with rfl | fits
  · simpa using room
  · omega

/-! ## Lines and records -/

theorem Comes.relocated (closes : Closes lines distance whole) (comes : Comes lines config line) :
    Comes whole (config.relocated distance prior) (line.moved (· + distance)) where
  inside := Config.inside_relocated comes.inside
  here := by
    rw [Config.relocated, closes.getElem?, comes.here]
    rfl
  active := comes.active

theorem Reads.relocated [CharacterNames] {statement : Statement}
    (closes : Closes lines distance whole) (spares : Spares limits prior (config.trace.length + 1))
    (comes : Reads limits lines config line statement) :
    Reads limits whole (config.relocated distance prior) (line.moved (· + distance)) statement :=
  { comes.toComes.relocated closes with
    room := Config.room_relocated spares comes.room
    reads := comes.reads }

theorem Config.after_relocated (event : Event) (scope : Scope) :
    (config.after event scope).relocated distance prior =
      (config.relocated distance prior).after event scope := by
  simp [relocated, after, Step.moved, Nat.add_right_comm]

theorem Config.enter_relocated (loop : OpenLoop) (outer : List OpenLoop) :
    (config.enter loop outer).relocated distance prior =
      (config.relocated distance prior).enter (loop.relocated distance)
        (outer.map (OpenLoop.relocated distance)) := by
  simp [relocated, enter, bound, OpenLoop.relocated, Step.moved, Nat.add_right_comm]

theorem Config.refuse_relocated (place : Nat) (scope : Scope) (failure : Failure) :
    (config.relocated distance prior).refuse (place + distance) scope failure =
      (config.refuse place scope failure).map (Response.relocated distance prior) := by
  cases failure with
  | abort abort => rfl
  | fault fault =>
    simp [refuse, relocated, Response.relocated, Step.moved, Nat.add_right_comm, Except.map]

/-! ## Turns -/

theorem Moves.relocated [CharacterNames] (closes : Closes lines distance whole)
    (spares : Spares limits prior next.trace.length) (moves : Moves limits lines config next) :
    Moves limits whole (config.relocated distance prior) (next.relocated distance prior) := by
  cases moves with
  | @skip line inside here inert =>
    have there : whole[(config.relocated distance prior).cursor]? =
        some (line.moved (· + distance)) := by
      rw [Config.relocated, closes.getElem?, here]
      rfl
    have moved := @Moves.skip _ limits _ _ _ (Config.inside_relocated inside) there inert
    simpa [Config.relocated, Nat.add_right_comm] using moved
  | @perform line statement event scope comes plain does =>
    have moved := Moves.perform (comes.relocated closes (by simpa [Config.after] using spares))
      plain does
    rw [← Config.after_relocated] at moved
    simpa [Config.relocated, Config.after, Nat.add_right_comm] using moved
  | @idle line var limit text scope comes does =>
    have moved := Moves.idle (comes.relocated closes (by simpa [Config.after] using spares)) does
    rw [← Config.after_relocated, Line.moved_indent] at moved
    simpa [Config.relocated, Config.after, closes.blockEnd] using moved
  | @begin line var limit text count scope comes does runs room =>
    have both : Spares limits prior ((config.after (.looping count) scope).trace.length + 1) := by
      simpa [Config.enter] using spares
    have moved := Moves.begin (comes.relocated closes (both.mono (by simp [Config.after]))) does runs
      (by rw [← Config.after_relocated]; exact Config.room_relocated both room)
    rw [← Config.after_relocated, Line.moved_indent] at moved
    rw [Config.enter_relocated]
    simpa [Config.relocated, closes.blockEnd, Config.opened, OpenLoop.relocated] using moved
  | @again loop outer ends more room =>
    rw [Config.enter_relocated]
    exact .again (Config.ends_relocated ends) more
      (Config.room_relocated (by simpa [Config.enter] using spares) room)
  | @leave loop outer ends spent => exact .leave (Config.ends_relocated ends) spent

theorem Reaches.relocated [CharacterNames] (closes : Closes lines distance whole)
    (spares : Spares limits prior last.trace.length) (reaches : Reaches limits lines config last) :
    Reaches limits whole (config.relocated distance prior) (last.relocated distance prior) := by
  induction reaches with
  | refl => exact .refl
  | tail _ moves ih =>
    have grows := (Reaches.trace_grows (.single moves)).length_le
    exact (ih (spares.mono grows)).tail (moves.relocated closes spares)

/-! ## Where it stops -/

/-- The step limit leaves room for the steps of a result after the earlier ones, if there are
    any. -/
def SparesResult (limits : Limits) (prior : List Step) (result : Except Abort Response) : Prop :=
  prior = [] ∨ ∃ response, result = .ok response ∧
    ((prior.length + response.trace.length : Nat) : Int) ≤ limits.steps

theorem SparesResult.spares {result : Except Abort Response} {count : Nat}
    (spares : SparesResult limits prior result)
    (records : ∀ response, result = .ok response → count ≤ response.trace.length) :
    Spares limits prior count := by
  rcases spares with none | ⟨response, returns, fits⟩
  · exact .inl none
  · have := records response returns
    exact .inr (by omega)

theorem length_le_of_concludes {trace : List Step} {response : Response}
    (concludes : Concludes trace response) : trace.length ≤ response.trace.length := by
  cases concludes with
  | completed => exact Nat.le_refl _
  | paused | failed => simp

theorem Config.length_refuse {place : Nat} {scope : Scope} {failure : Failure} {response : Response}
    (refused : config.refuse place scope failure = .ok response) :
    config.trace.length + 1 ≤ response.trace.length := by
  obtain ⟨fault, -, rfl⟩ := refuse_eq_ok.mp refused
  simp

theorem Stops.relocated [CharacterNames] {result : Except Abort Response}
    (closes : Closes lines distance whole)
    (spares : SparesResult limits prior result) (stops : Stops limits lines config result) :
    Stops limits whole (config.relocated distance prior)
      (result.map (Response.relocated distance prior)) := by
  cases stops with
  | finished inside past =>
    refine .finished (Config.inside_relocated inside) ?_
    rw [Config.relocated, closes.getElem?, past]
    rfl
  | @asked line target prompt event scope comes does =>
    have room : Spares limits prior (config.trace.length + 1) :=
      spares.spares (by simp [Config.after])
    have stopped := Stops.asked (comes.relocated closes room) does
    rwa [← Config.after_relocated] at stopped
  | full comes full =>
    rw [← Config.refuse_relocated]
    exact .full (comes.relocated closes) full.relocated
  | unread comes room fails =>
    have spared := spares.spares fun _ refused => Config.length_refuse refused
    rw [← Config.refuse_relocated]
    exact .unread (comes.relocated closes) (Config.room_relocated spared room) fails
  | undone comes fails =>
    have spared := spares.spares fun _ refused => Config.length_refuse refused
    rw [← Config.refuse_relocated]
    exact .undone (comes.relocated closes spared) fails
  | crowded comes does runs full =>
    have spared := spares.spares fun _ refused => Config.length_refuse refused
    rw [← Config.refuse_relocated]
    refine .crowded (comes.relocated closes spared) does runs ?_
    rw [← Config.after_relocated]
    exact full.relocated
  | cut ends more full =>
    have there : (config.relocated distance prior).Full limits := full.relocated
    have stopped := @Stops.cut _ limits whole _ _ _ (Config.ends_relocated ends) more there
    rw [← Config.refuse_relocated]
    exact stopped

/-- Where lines end a longer program and the step limit leaves room for what they record, the
    machine comes to the same result there, after the earlier steps. -/
theorem Ends.relocated [CharacterNames] {result : Except Abort Response}
    (closes : Closes lines distance whole)
    (spares : SparesResult limits prior result) (ends : Ends limits lines config result) :
    Ends limits whole (config.relocated distance prior)
      (result.map (Response.relocated distance prior)) := by
  obtain ⟨last, reaches, stops⟩ := ends
  have before := spares.spares fun _ returns => length_le_of_concludes (stops.concludes returns)
  exact ⟨_, reaches.relocated closes before, stops.relocated closes spares⟩

end Machine

end StepTrace
