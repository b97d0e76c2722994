import StepTrace.Proofs.Run.Mirror

/-!
# Expanded runs

A run that takes the bodies of loops out of the program. The lines of a body are numbered
anew from one, and each time of the loop runs them by themselves: with a trace of its own,
with the rest of the budget, and with the variables of that time. What a time has recorded is
put after the steps so far under the numbers that the lines have around the body. Following
the outline of the program comes to the same response (`run_eq`).
-/

namespace StepTrace.Expansion

open Machine (item_of_full item_of_room)

/-- What lines that are run by themselves come to. -/
structure Part where
  trace : List Step
  error : Option Fault
  scope : Scope
  /-- The lines around them are not run any further. -/
  stops : Bool

def Part.response (part : Part) : Response := ⟨part.trace, part.error⟩

/-- Goes on from the trace and the variables of a part that lets the next one come. -/
def andThen (first : Except Abort Part) (next : List Step → Scope → Except Abort Part) :
    Except Abort Part :=
  match first with
  | .ok part => if part.stops then .ok part else next part.trace part.scope
  | .error abort => .error abort

/-- The failure of a line as the last step of a trace. -/
def refuse (trace : List Step) (number : Nat) (scope : Scope) : Failure → Except Abort Part
  | .fault fault => .ok ⟨trace ++ [⟨number, .failed fault, scope⟩], some fault, scope, true⟩
  | .abort abort => .error abort

/-! ## Loops -/

/-- Lines with new numbers, counted from one. -/
def renumbered (lines : List Line) : List Line :=
  lines.zipIdx 1 |>.map fun (line, number) => { line with number }

/-- The number that a line of a body has around it, by its number inside. -/
def around (body : List Line) (number : Nat) : Nat := body[number - 1]?.elim number Line.number

/-- A loop that runs: the number of its header, its variable and its body, and the steps and
    the variables before the header. -/
structure Loop where
  number : Nat
  var : String
  body : List Line
  earlier : List Step
  entry : Scope

/-- Puts what a body has come to by itself after the steps recorded around it, and goes on where
    its response is one of a completed run. -/
def merge (recorded : List Step) (body : List Line) (inner : Except Abort Part)
    (next : List Step → Scope → Except Abort Part) : Except Abort Part :=
  match inner with
  | .error abort => .error abort
  | .ok part =>
    let merged := recorded ++ part.trace.map (Step.moved (around body))
    if part.response.status = .completed then next merged part.scope
    else .ok ⟨merged, part.error, part.scope, true⟩

/-- Runs a loop so many times, the first time with the given index. A time that is refused
    while the step of the header is the last one takes the place of the header. -/
def expand (limits : Limits) (budget : Int) (loop : Loop) (sub : Int → Scope → Except Abort Part) :
    Nat → Nat → List Step → Scope → Except Abort Part
  | 0, _, trace, scope => .ok ⟨trace, none, scope, false⟩
  | times + 1, index, trace, scope =>
    let bound := scope.set loop.var (.int index)
    if budget ≤ trace.length then
      if trace.length = loop.earlier.length + 1 then
        refuse loop.earlier loop.number loop.entry (Run.stepLimit limits)
      else refuse trace loop.number bound (Run.stepLimit limits)
    else
      let recorded := trace ++ [⟨loop.number, .iteration loop.var index, bound⟩]
      merge recorded loop.body (sub (budget - recorded.length) bound)
        (expand limits budget loop sub times (index + 1))

/-! ## Lines -/

/-- What a line does, with the times of the loop that it begins as a function of the loop's
    variable, their number, the trace and the variables. -/
def visit [CharacterNames] (limits : Limits) (budget : Int) (line : Line)
    (loop : String → Nat → List Step → Scope → Except Abort Part) (trace : List Step)
    (scope : Scope) : Except Abort Part :=
  if budget ≤ trace.length then refuse trace line.number scope (Run.stepLimit limits)
  else
    match Statement.ofLine line.content with
    | .error failure => refuse trace line.number scope failure
    | .ok statement =>
      match Run.effect limits scope statement with
      | .error failure => refuse trace line.number scope failure
      | .ok (event, after) =>
        let recorded := trace ++ [⟨line.number, event, after⟩]
        match statement, event with
        | .question _ _, _ => .ok ⟨recorded, none, after, true⟩
        | .loop var _ _, .looping times => loop var times recorded after
        | _, _ => .ok ⟨recorded, none, after, false⟩

/-- The lines that come after a line has been run: those after its block, for a header. -/
def following [CharacterNames] (line : Line) (rest : List Line) : List Line :=
  match Statement.ofLine line.content with
  | .ok (.loop _ _ _) => Source.afterBlock line.indent rest
  | _ => rest

@[simp] theorem length_renumbered (lines : List Line) :
    (renumbered lines).length = lines.length := by
  simp [renumbered]

theorem length_following_le [CharacterNames] (line : Line) (rest : List Line) :
    (following line rest).length ≤ rest.length := by
  unfold following
  split
  · exact Source.length_afterBlock_le line.indent rest
  · exact Nat.le_refl _

/-- Runs lines by themselves, from a trace on that may grow up to a budget. -/
def walk [CharacterNames] (limits : Limits) (budget : Int) :
    List Line → List Step → Scope → Except Abort Part
  | [], trace, scope => .ok ⟨trace, none, scope, false⟩
  | line :: rest, trace, scope =>
    if line.isInert then walk limits budget rest trace scope
    else
      let body := Source.block line.indent rest
      andThen
        (visit limits budget line
          (fun var times => expand limits budget ⟨line.number, var, body, trace, scope⟩
            (fun budget scope => walk limits budget (renumbered body) [] scope) times 0)
          trace scope)
        (walk limits budget (following line rest))
termination_by lines => lines.length
decreasing_by
  · simp
  · have := Source.length_block_le line.indent rest
    simp only [length_renumbered, List.length_cons]
    omega
  · have := length_following_le line rest
    simp only [List.length_cons]
    omega

/-- Runs a program without its first `start` lines. -/
def run [CharacterNames] (limits : Limits) (code : List Char) (scope : Scope) (start : Int)
    (answer : Option Answer) : Except Abort Response := do
  if start < 0 then throw .negativeStart
  let scope ← Run.entryScope scope answer
  let part ← walk limits limits.steps ((Source.lines code).drop start.toNat) [] scope
  return part.response

/-! ## Parts and states -/

variable {limits : Limits} {move : Nat → Nat} {base trace : List Step} {budget : Int}
  {scope : Scope} {line : Line} {lines rest : List Line} {result : Except Abort Part}
  {outcome : Outcome}

/-- None of the steps is a question. -/
def Silent (trace : List Step) : Prop := ∀ step ∈ trace, step.asked? = none

/-- The state of a run in which a part has come through a trace: other steps come before it,
    and the lines of its steps have other numbers around it. -/
def standing (move : Nat → Nat) (base : List Step) (budget : Int) (trace : List Step)
    (scope : Scope) : State :=
  ⟨scope, (base ++ trace.map (Step.moved move)).reverse, (budget - trace.length).toNat⟩

/-- What a part comes to by itself, and what its lines come to among the others. -/
inductive Agrees (move : Nat → Nat) (base : List Step) (budget : Int) :
    Except Abort Part → Outcome → Prop
  | done {trace : List Step} {scope : Scope} (silent : Silent trace) :
      Agrees move base budget (.ok ⟨trace, none, scope, false⟩)
        (.ok (.done, standing move base budget trace scope))
  | stopped {part : Part} {ending : Ending} {state : State} (stops : part.stops = true)
      (seen : part.response.status ≠ .completed) (early : ending ≠ .done)
      (steps : state.steps = (base ++ part.trace.map (Step.moved move)).reverse)
      (error : (Run.respond ending state).error = part.error) :
      Agrees move base budget (.ok part) (.ok (ending, state))
  | aborted {abort : Abort} : Agrees move base budget (.error abort) (.error abort)

theorem Silent.concat {step : Step} (silent : Silent trace) (mute : step.asked? = none) :
    Silent (trace ++ [step]) := by
  intro other member
  rcases List.mem_append.mp member with earlier | last
  · exact silent other earlier
  · obtain rfl := List.mem_singleton.mp last
    exact mute

theorem Silent.status_eq (silent : Silent trace) : (Response.mk trace none).status = .completed := by
  have none : trace.getLast?.bind Step.asked? = none := by
    cases last : trace.getLast? with
    | none => rfl
    | some step => exact silent step (List.mem_of_getLast? last)
  simp [Response.status, none]

theorem standing_full : (standing move base budget trace scope).remaining = 0 ↔
    budget ≤ trace.length := by
  simp only [standing]
  omega

theorem standing_record (number : Nat) (event : Event) (after : Scope) :
    State.record { standing move base budget trace scope with scope := after } (move number) event =
      standing move base budget (trace ++ [⟨number, event, after⟩]) after := by
  have room : (budget - trace.length).toNat - 1 = (budget - (trace.length + 1 : Nat)).toNat := by
    omega
  simp only [State.record, standing, Step.moved, room, List.map_append, List.map_singleton,
    List.length_append, List.length_singleton, ← List.append_assoc, List.reverse_concat]

/-- A part that has not begun stands where the lines around it have come to. -/
theorem standing_nil (body : List Line) (recorded : List Step) :
    standing (move ∘ around body) (base ++ recorded.map (Step.moved move))
        (budget - recorded.length) trace scope =
      standing move base budget (recorded ++ trace.map (Step.moved (around body))) scope := by
  have room : (budget - recorded.length - trace.length).toNat =
      (budget - (recorded.length + trace.length : Nat)).toNat := by
    omega
  simp only [standing, List.map_append, List.map_map, List.length_append, List.length_map,
    List.append_assoc, room]
  rfl

theorem Agrees.refuse {number : Nat} {state : State} {failure : Failure}
    (steps : state.steps = (base ++ trace.map (Step.moved move)).reverse)
    (same : state.scope = scope) :
    Agrees move base budget (Expansion.refuse trace number scope failure)
      (state.refuse (move number) failure) := by
  cases failure with
  | abort abort => exact .aborted
  | fault fault =>
    refine .stopped rfl (by simp [Response.status, Part.response]) (by simp) ?_ rfl
    simp [steps, same, Step.moved]

theorem Agrees.andThen {next : List Step → Scope → Except Abort Part} {later : State → Outcome}
    (first : Agrees move base budget result outcome)
    (second : ∀ trace scope, Silent trace →
      Agrees move base budget (next trace scope) (later (standing move base budget trace scope))) :
    Agrees move base budget (Expansion.andThen result next) (outcome.andThen later) := by
  cases first with
  | @done trace scope silent => exact second trace scope silent
  | @stopped part ending state stops seen early steps error =>
    rw [Expansion.andThen, if_pos stops, Run.andThen_of_early early]
    exact .stopped stops seen early steps error
  | aborted => exact .aborted

theorem Silent.append_moved {recorded : List Step} (silent : Silent trace)
    (earlier : Silent recorded) : Silent (recorded ++ trace.map (Step.moved move)) := by
  intro step member
  rcases List.mem_append.mp member with before | inside
  · exact earlier step before
  · obtain ⟨step, among, rfl⟩ := List.mem_map.mp inside
    exact silent step among

/-- A part that is seen to have stopped is seen so after other steps. -/
theorem seen_append {error : Option Fault} (recorded : List Step)
    (seen : (Response.mk trace error).status ≠ .completed) :
    (Response.mk (recorded ++ trace.map (Step.moved move)) error).status ≠ .completed := by
  rcases List.eq_nil_or_concat trace with rfl | ⟨before, last, rfl⟩
  · cases error with
    | none => exact absurd rfl seen
    | some fault => simp [Response.status]
  · have same : (last.moved move).asked? = last.asked? := rfl
    simpa [Response.status, ← List.append_assoc, same] using seen

theorem Agrees.merge {body : List Line} {recorded : List Step} {later : State → Outcome}
    {next : List Step → Scope → Except Abort Part}
    (inner : Agrees (move ∘ around body) (base ++ recorded.map (Step.moved move))
      (budget - recorded.length) result outcome) (mute : Silent recorded)
    (second : ∀ trace scope, Silent trace → recorded.length ≤ trace.length →
      Agrees move base budget (next trace scope) (later (standing move base budget trace scope))) :
    Agrees move base budget (Expansion.merge recorded body result next) (outcome.andThen later) := by
  cases inner with
  | @done trace scope silent =>
    simp only [Expansion.merge, Part.response, silent.status_eq, if_true, Outcome.andThen]
    rw [standing_nil]
    exact second _ _ (silent.append_moved mute) (by simp)
  | @stopped part ending state stops seen early steps error =>
    have merged : state.steps =
        (base ++ (recorded ++ part.trace.map (Step.moved (around body))).map
          (Step.moved move)).reverse := by
      rw [steps, List.map_append, List.map_map, List.append_assoc]
      rfl
    -- The loop sees that the body has stopped only by its response.
    simp only [Expansion.merge, if_neg seen]
    rw [Run.andThen_of_early early]
    exact .stopped rfl (seen_append recorded seen) early merged error
  | aborted => exact .aborted

/-! ## Loops and lines -/

/-- A function runs a body by itself as another one runs it among the lines around it. -/
def RunsAlone (move : Nat → Nat) (lines : List Line) (sub : Int → Scope → Except Abort Part)
    (body : State → Outcome) : Prop :=
  ∀ base budget scope, Agrees (move ∘ around lines) base budget (sub budget scope)
    (body (standing (move ∘ around lines) base budget [] scope))

section
variable {loop : Loop} {sub : Int → Scope → Except Abort Part} {body : State → Outcome}

/-- The times of a loop whose header is not the last step when they are refused. -/
theorem agrees_expand (alone : RunsAlone move loop.body sub body) (times index : Nat)
    (silent : Silent trace) (begun : loop.earlier.length < trace.length)
    (apart : budget ≤ trace.length → trace.length ≠ loop.earlier.length + 1) :
    Agrees move base budget (expand limits budget loop sub times index trace scope)
      (Run.iterate limits (move loop.number) loop.var body times index
        (standing move base budget trace scope)) := by
  induction times generalizing index trace scope with
  | zero => exact .done silent
  | succ times ih =>
    rw [expand, Run.iterate]
    by_cases full : budget ≤ trace.length
    · rw [if_pos (standing_full.mpr full)]
      simp only [if_pos full, if_neg (apart full)]
      exact .refuse rfl rfl
    · rw [if_neg (mt standing_full.mp full)]
      have recorded : ((standing move base budget trace scope).assign loop.var (.int index)).record
            (move loop.number) (.iteration loop.var index) =
          standing move base budget
            (trace ++ [⟨loop.number, .iteration loop.var index, scope.set loop.var (.int index)⟩])
            (scope.set loop.var (.int index)) := standing_record ..
      have inner (after : List Step) (bound : Scope) :=
        alone (base ++ after.map (Step.moved move)) (budget - after.length) bound
      simp only [standing_nil, List.map_nil, List.append_nil] at inner
      simp only [if_neg full, recorded]
      refine (inner _ _).merge (silent.concat rfl) fun trace scope silent longer => ?_
      rw [List.length_append, List.length_singleton] at longer
      exact ih (index + 1) silent (by omega) fun _ => by omega

/-- The loop of a header. Its first time is refused where the header has taken the last room. -/
theorem agrees_loop (loop : Loop) (times : Nat) (after : Scope)
    (alone : RunsAlone move loop.body sub body)
    (silent : Silent loop.earlier) (room : ¬ budget ≤ loop.earlier.length) :
    Agrees move base budget
      (expand limits budget loop sub times 0
        (loop.earlier ++ [⟨loop.number, .looping times, after⟩]) after)
      (if 0 < times ∧ (standing move base budget loop.earlier loop.entry).remaining = 1 then
        (standing move base budget loop.earlier loop.entry).refuse (move loop.number)
          (Run.stepLimit limits)
      else Run.iterate limits (move loop.number) loop.var body times 0
        (standing move base budget (loop.earlier ++ [⟨loop.number, .looping times, after⟩]) after)) := by
  have last : (standing move base budget loop.earlier loop.entry).remaining = 1 ↔
      budget ≤ (loop.earlier ++ [(⟨loop.number, .looping times, after⟩ : Step)]).length := by
    simp only [standing, List.length_append, List.length_singleton]
    omega
  by_cases crowded : 0 < times ∧ (standing move base budget loop.earlier loop.entry).remaining = 1
  -- The header has been put at the end of the trace and is taken away again.
  · obtain ⟨runs, full⟩ := crowded
    rw [if_pos ⟨runs, full⟩]
    obtain ⟨more, rfl⟩ : ∃ more, times = more + 1 := ⟨times - 1, by omega⟩
    have header : (loop.earlier ++ [(⟨loop.number, .looping (more + 1), after⟩ : Step)]).length =
        loop.earlier.length + 1 := by simp
    simp only [expand, if_pos (last.mp full), if_pos header]
    exact .refuse rfl rfl
  · rw [if_neg crowded]
    cases times with
    | zero => exact .done (silent.concat rfl)
    | succ times =>
      have fits := mt last.mpr fun full => crowded ⟨Nat.succ_pos times, full⟩
      exact agrees_expand alone _ 0 (silent.concat rfl) (by simp) fun full => absurd full fits

theorem agrees_visit [CharacterNames] {items : List Item} (silent : Silent trace)
    (alone : line.IsHeader → RunsAlone move lines sub (Run.items limits items)) :
    Agrees move base budget
      (visit limits budget line
        (fun var times => expand limits budget ⟨line.number, var, lines, trace, scope⟩ sub times 0)
        trace scope)
      (Run.item limits (.mk (move line.number) (Statement.ofLine line.content) items)
        (standing move base budget trace scope)) := by
  rw [visit]
  by_cases full : budget ≤ trace.length
  · rw [if_pos full, item_of_full (standing_full.mpr full)]
    exact .refuse rfl rfl
  · rw [if_neg full, item_of_room (mt standing_full.mp full)]
    cases reads : Statement.ofLine line.content with
    | error failure => exact .refuse rfl rfl
    | ok statement =>
      simp only [Run.perform]
      rw [show (standing move base budget trace scope).scope = scope from rfl]
      cases does : Run.effect limits scope statement with
      | error failure => exact .refuse rfl rfl
      | ok effect =>
        obtain ⟨event, after⟩ := effect
        simp only [standing_record]
        cases statement with
        | question target prompt =>
          obtain ⟨-, -, text, -, rfl, rfl⟩ := Run.effect_question.mp does
          exact .stopped rfl (by simp [Part.response, Response.status, Step.asked?]) (by simp) rfl rfl
        | assignment target expr =>
          obtain ⟨-, -, shown, -, rfl, -⟩ := Run.effect_assignment.mp does
          exact .done (silent.concat rfl)
        | print expr =>
          obtain ⟨-, -, text, -, rfl, -⟩ := Run.effect_print.mp does
          exact .done (silent.concat rfl)
        | loop var count text =>
          obtain ⟨-, -, times, -, rfl, -⟩ := Run.effect_loop.mp does
          exact agrees_loop ⟨line.number, var, lines, trace, scope⟩ times after
            (alone ⟨var, count, text, reads⟩) silent full

end

/-! ## Programs -/

/-- A line that does something is the first item, and the lines that follow it are the others. -/
theorem outline_cons [CharacterNames] (rest : List Line) (active : line.isInert = false) :
    ∃ items, outline (line :: rest) =
        .mk line.number (Statement.ofLine line.content) items :: outline (following line rest) ∧
      (line.IsHeader → items = outline (Source.block line.indent rest)) := by
  by_cases header : line.IsHeader
  · obtain ⟨var, count, text, reads⟩ := header
    refine ⟨_, ?_, fun _ => rfl⟩
    rw [outline_loop rest active reads, following, reads]
  · refine ⟨[], ?_, fun isHeader => absurd isHeader header⟩
    have single : ∀ var count text, Statement.ofLine line.content ≠ .ok (.loop var count text) :=
      fun var count text reads => header ⟨var, count, text, reads⟩
    rw [outline_line rest active single, following]
    split
    · next reads => exact absurd reads (single _ _ _)
    · rfl

theorem following_moved [CharacterNames] (line : Line) (rest : List Line) :
    following (line.moved move) (rest.map (Line.moved move)) =
      (following line rest).map (Line.moved move) := by
  unfold following
  rw [Line.moved_content]
  split
  · exact Source.afterBlock_moved rest
  · rfl

/-- The lines of a body have their numbers around it back. -/
theorem map_renumbered (body : List Line) :
    (renumbered body).map (Line.moved (move ∘ around body)) = body.map (Line.moved move) := by
  refine List.ext_getElem (by simp) fun index inside _ => ?_
  have within : index < body.length := by simpa using inside
  simp [renumbered, around, Line.moved, within]

/-- Lines by themselves come to what their items come to among the others, by induction on the
    number of the lines: the lines of a body are renumbered, and their numbers around the body
    are those that a step of the body gets back. -/
theorem agrees_walk [CharacterNames] (limits : Limits) (move : Nat → Nat) (base : List Step)
    (budget : Int) (lines : List Line) (trace : List Step) (scope : Scope) (silent : Silent trace) :
    Agrees move base budget (walk limits budget lines trace scope)
      (Run.items limits (outline (lines.map (Line.moved move)))
        (standing move base budget trace scope)) := by
  match lines with
  | [] =>
    rw [walk, List.map_nil, outline_nil, Run.items]
    exact .done silent
  | line :: rest =>
    rw [walk, List.map_cons]
    by_cases inert : line.isInert = true
    · rw [if_pos inert, @outline_inert _ (line.moved move) _ inert]
      exact agrees_walk limits move base budget rest trace scope silent
    · have active : (line.moved move).isInert = false := by simpa using inert
      obtain ⟨items, whole, block⟩ := outline_cons (rest.map (Line.moved move)) active
      rw [if_neg inert, whole, following_moved, Run.items]
      refine (agrees_visit silent fun header base budget scope => ?_).andThen fun trace scope silent =>
        agrees_walk limits move base budget (following line rest) trace scope silent
      rw [block header, Line.moved_indent, Source.block_moved, ← map_renumbered]
      exact agrees_walk limits _ base budget (renumbered (Source.block line.indent rest)) [] scope
        (by simp [Silent])
termination_by lines.length
decreasing_by
  · simp
  · have := Source.length_block_le line.indent rest
    simp only [length_renumbered, List.length_cons]
    omega
  · have := length_following_le line rest
    simp only [List.length_cons]
    omega

theorem Agrees.respond (agrees : Agrees id [] budget result outcome) :
    result.map Part.response = outcome.map fun part => Run.respond part.1 part.2 := by
  cases agrees with
  | done silent => simp [Except.map, Run.respond, Part.response, standing, Step.map_moved_id]
  | @stopped part ending state stops seen early steps error =>
    have trace : (Run.respond ending state).trace = part.trace := by
      simp [Run.respond, steps, Step.map_moved_id]
    simp only [Except.map, Part.response, ← error, ← trace]
  | aborted => rfl

/-- A run comes to the same response when the bodies of its loops are run by themselves, with
    lines, traces and budgets of their own. -/
theorem run_eq [CharacterNames] (limits : Limits) (code : List Char) (scope : Scope) (start : Int)
    (answer : Option Answer) :
    run limits code scope start answer = StepTrace.run limits code scope start answer := by
  unfold run StepTrace.run
  by_cases backward : start < 0
  · simp only [if_pos backward]
    rfl
  · simp only [if_neg backward]
    refine congrArg _ (funext fun before => ?_)
    have agrees := agrees_walk limits id [] limits.steps ((Source.lines code).drop start.toNat) []
      before (by simp [Silent])
    have begins : standing id [] limits.steps [] before = Run.entryState limits before := by
      simp [standing, Run.entryState]
    rw [Line.map_moved_id, begins] at agrees
    exact agrees.respond

end StepTrace.Expansion
