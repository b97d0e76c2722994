import Mathlib.Logic.Relation
import StepTrace.Proofs.Effect

/-!
# The flat machine

A machine that runs a program without its outline. It works on the lines of the
caller with their places, has one cursor, one scope and one trace, and keeps the
loops that were begun and not left on a stack. `Moves` and `Stops` say everything
that a turn can do, and `advance` is the turn as a function.
-/

namespace StepTrace.Machine

/-- A loop that was begun and not left: the place of its header, counted from zero, the
    index of its next time, how many times it runs, and the first place past its body. -/
structure OpenLoop where
  header : Nat
  var : String
  next : Nat
  count : Nat
  past : Nat
  deriving DecidableEq, Repr

/-- Everything that the machine keeps: the place of the next line, the open loops, the
    innermost one first, the variables, and the steps so far in order. -/
structure Config where
  cursor : Nat
  loops : List OpenLoop
  scope : Scope
  trace : List Step
  deriving Repr

namespace Config

/-- There is no room for a step. -/
def Full (limits : Limits) (config : Config) : Prop := limits.steps ≤ config.trace.length

instance (limits : Limits) (config : Config) : Decidable (config.Full limits) :=
  inferInstanceAs (Decidable (_ ≤ _))

/-- The line at the cursor has recorded an event that leaves some variables. -/
def after (config : Config) (event : Event) (scope : Scope) : Config :=
  { config with scope, trace := config.trace ++ [⟨config.cursor + 1, event, scope⟩] }

/-- The variables at the next time of a loop. -/
def bound (config : Config) (loop : OpenLoop) : Scope :=
  config.scope.set loop.var (.int loop.next)

/-- The next time of a loop has been recorded, and its body begins. -/
def enter (config : Config) (loop : OpenLoop) (outer : List OpenLoop) : Config where
  cursor := loop.header + 1
  loops := { loop with next := loop.next + 1 } :: outer
  scope := config.bound loop
  trace := config.trace ++ [⟨loop.header + 1, .iteration loop.var loop.next, config.bound loop⟩]

/-- The loop that the line at the cursor begins. -/
def opened (config : Config) (var : String) (count past : Nat) : OpenLoop :=
  ⟨config.cursor, var, 0, count, past⟩

/-- What a run returns that fails at a place with these variables. -/
def refuse (config : Config) (place : Nat) (scope : Scope) : Failure → Except Abort Response
  | .fault fault => .ok ⟨config.trace ++ [⟨place + 1, .failed fault, scope⟩], some fault⟩
  | .abort abort => .error abort

/-- The innermost loop, when the cursor stands at the end of its body, and the others. -/
def bodyEnd? (config : Config) : Option (OpenLoop × List OpenLoop) :=
  match config.loops with
  | [] => none
  | loop :: outer => if config.cursor = loop.past then some (loop, outer) else none

theorem refuse_eq_ok {config : Config} {place : Nat} {scope : Scope} {failure : Failure}
    {response : Response} : config.refuse place scope failure = .ok response ↔
      ∃ fault, failure = .fault fault ∧
        response = ⟨config.trace ++ [⟨place + 1, .failed fault, scope⟩], some fault⟩ := by
  cases failure <;> simp [refuse, eq_comm]

theorem refuse_eq_error {config : Config} {place : Nat} {scope : Scope} {failure : Failure}
    {abort : Abort} : config.refuse place scope failure = .error abort ↔ failure = .abort abort := by
  cases failure <;> simp [refuse]

theorem bodyEnd?_eq_some {config : Config} {loop : OpenLoop} {outer : List OpenLoop} :
    config.bodyEnd? = some (loop, outer) ↔
      config.loops = loop :: outer ∧ config.cursor = loop.past := by
  unfold bodyEnd?
  cases config.loops with
  | nil => simp
  | cons first rest =>
    by_cases ended : config.cursor = first.past
    · simp only [if_pos ended, Option.some.injEq, Prod.mk.injEq, List.cons.injEq]
      exact ⟨fun ⟨same, others⟩ => ⟨⟨same, others⟩, same ▸ ended⟩, fun ⟨same, _⟩ => same⟩
    · simp only [if_neg ended, reduceCtorEq, List.cons.injEq, false_iff]
      rintro ⟨⟨rfl, -⟩, here⟩
      exact ended here

end Config

/-- The place past the block of a header with an indentation. -/
def blockEnd (lines : List Line) (header indent : Nat) : Nat :=
  header + 1 + ((lines.drop (header + 1)).takeWhile (Source.continues indent)).length

/-! ## Turns as rules -/

/-- The line at the cursor comes next, and it does something. -/
structure Comes (lines : List Line) (config : Config) (line : Line) : Prop where
  inside : config.bodyEnd? = none
  here : lines[config.cursor]? = some line
  active : line.isInert = false

/-- The line at the cursor comes next, there is room for its step, and it reads as a
    statement. -/
structure Reads [CharacterNames] (limits : Limits) (lines : List Line) (config : Config)
    (line : Line) (statement : Statement) : Prop extends Comes lines config line where
  room : ¬ config.Full limits
  reads : Statement.ofLine line.content = .ok statement

/-- A statement that lets the next line come. -/
def Plain : Statement → Prop
  | .assignment _ _ | .print _ => True
  | .question _ _ | .loop _ _ _ => False

/-- The turns after which the machine goes on. The header of a loop that runs is recorded
    together with the first time, and that of a loop that does not run alone. -/
inductive Moves [CharacterNames] (limits : Limits) (lines : List Line) (config : Config) :
    Config → Prop
  | skip {line : Line} (inside : config.bodyEnd? = none)
      (here : lines[config.cursor]? = some line) (inert : line.isInert = true) :
      Moves limits lines config { config with cursor := config.cursor + 1 }
  | perform {line : Line} {statement : Statement} {event : Event} {scope : Scope}
      (comes : Reads limits lines config line statement) (plain : Plain statement)
      (does : Run.effect limits config.scope statement = .ok (event, scope)) :
      Moves limits lines config { config.after event scope with cursor := config.cursor + 1 }
  | idle {line : Line} {var : String} {limit : Expr} {text : List Char} {scope : Scope}
      (comes : Reads limits lines config line (.loop var limit text))
      (does : Run.effect limits config.scope (.loop var limit text) = .ok (.looping 0, scope)) :
      Moves limits lines config
        { config.after (.looping 0) scope with cursor := blockEnd lines config.cursor line.indent }
  | begin {line : Line} {var : String} {limit : Expr} {text : List Char} {count : Nat}
      {scope : Scope} (comes : Reads limits lines config line (.loop var limit text))
      (does : Run.effect limits config.scope (.loop var limit text) = .ok (.looping count, scope))
      (runs : 0 < count) (room : ¬ (config.after (.looping count) scope).Full limits) :
      Moves limits lines config
        ((config.after (.looping count) scope).enter
          (config.opened var count (blockEnd lines config.cursor line.indent)) config.loops)
  | again {loop : OpenLoop} {outer : List OpenLoop} (ends : config.bodyEnd? = some (loop, outer))
      (more : loop.next < loop.count) (room : ¬ config.Full limits) :
      Moves limits lines config (config.enter loop outer)
  | leave {loop : OpenLoop} {outer : List OpenLoop} (ends : config.bodyEnd? = some (loop, outer))
      (spent : ¬ loop.next < loop.count) :
      Moves limits lines config { config with loops := outer }

/-- The turns that stop the machine, with what it returns. There may be no room for the
    step of a line, for the first time of a loop after its header, or for another time of a
    loop, whose variable is set all the same. -/
inductive Stops [CharacterNames] (limits : Limits) (lines : List Line) (config : Config) :
    Except Abort Response → Prop
  | finished (inside : config.bodyEnd? = none) (past : lines[config.cursor]? = none) :
      Stops limits lines config (.ok ⟨config.trace, none⟩)
  | asked {line : Line} {target : String} {prompt : Option Expr} {event : Event} {scope : Scope}
      (comes : Reads limits lines config line (.question target prompt))
      (does : Run.effect limits config.scope (.question target prompt) = .ok (event, scope)) :
      Stops limits lines config (.ok ⟨(config.after event scope).trace, none⟩)
  | full {line : Line} (comes : Comes lines config line) (full : config.Full limits) :
      Stops limits lines config (config.refuse config.cursor config.scope (Run.stepLimit limits))
  | unread {line : Line} {failure : Failure} (comes : Comes lines config line)
      (room : ¬ config.Full limits) (fails : Statement.ofLine line.content = .error failure) :
      Stops limits lines config (config.refuse config.cursor config.scope failure)
  | undone {line : Line} {statement : Statement} {failure : Failure}
      (comes : Reads limits lines config line statement)
      (fails : Run.effect limits config.scope statement = .error failure) :
      Stops limits lines config (config.refuse config.cursor config.scope failure)
  | crowded {line : Line} {var : String} {limit : Expr} {text : List Char} {count : Nat}
      {scope : Scope} (comes : Reads limits lines config line (.loop var limit text))
      (does : Run.effect limits config.scope (.loop var limit text) = .ok (.looping count, scope))
      (runs : 0 < count) (full : (config.after (.looping count) scope).Full limits) :
      Stops limits lines config (config.refuse config.cursor config.scope (Run.stepLimit limits))
  | cut {loop : OpenLoop} {outer : List OpenLoop} (ends : config.bodyEnd? = some (loop, outer))
      (more : loop.next < loop.count) (full : config.Full limits) :
      Stops limits lines config
        (config.refuse loop.header (config.bound loop) (Run.stepLimit limits))

/-! ## Turns as a function -/

/-- What a turn leads to. -/
inductive Turn where
  | next (config : Config)
  | halt (result : Except Abort Response)

/-- The turn at the end of the body of a loop. -/
def turnBack (limits : Limits) (config : Config) (loop : OpenLoop) (outer : List OpenLoop) : Turn :=
  if loop.next < loop.count then
    if config.Full limits then
      .halt (config.refuse loop.header (config.bound loop) (Run.stepLimit limits))
    else .next (config.enter loop outer)
  else .next { config with loops := outer }

/-- The turn at a statement for whose step there is room. -/
def execute (limits : Limits) (config : Config) (past : Nat) (statement : Statement) : Turn :=
  match Run.effect limits config.scope statement with
  | .error failure => .halt (config.refuse config.cursor config.scope failure)
  | .ok (event, scope) =>
    let after := config.after event scope
    match statement, event with
    | .question _ _, _ => .halt (.ok ⟨after.trace, none⟩)
    | .loop var _ _, .looping count =>
      if count = 0 then .next { after with cursor := past }
      else if after.Full limits then
        .halt (config.refuse config.cursor config.scope (Run.stepLimit limits))
      else .next (after.enter (config.opened var count past) config.loops)
    | _, _ => .next { after with cursor := config.cursor + 1 }

/-- The turn at a line. -/
def visit [CharacterNames] (limits : Limits) (lines : List Line) (config : Config) (line : Line) :
    Turn :=
  if line.isInert then .next { config with cursor := config.cursor + 1 }
  else if config.Full limits then
    .halt (config.refuse config.cursor config.scope (Run.stepLimit limits))
  else
    match Statement.ofLine line.content with
    | .error failure => .halt (config.refuse config.cursor config.scope failure)
    | .ok statement => execute limits config (blockEnd lines config.cursor line.indent) statement

/-- One turn of the machine. -/
def advance [CharacterNames] (limits : Limits) (lines : List Line) (config : Config) : Turn :=
  match config.bodyEnd? with
  | some (loop, outer) => turnBack limits config loop outer
  | none =>
    match lines[config.cursor]? with
    | none => .halt (.ok ⟨config.trace, none⟩)
    | some line => visit limits lines config line

variable {limits : Limits} {lines : List Line} {config next : Config}
  {result : Except Abort Response}

private theorem advance_reads [CharacterNames] {line : Line} {statement : Statement}
    (comes : Reads limits lines config line statement) :
    advance limits lines config =
      execute limits config (blockEnd lines config.cursor line.indent) statement := by
  simp [advance, visit, comes.inside, comes.here, comes.active, comes.room, comes.reads]

theorem Moves.advance [CharacterNames] (moves : Moves limits lines config next) :
    advance limits lines config = .next next := by
  cases moves with
  | skip inside here inert => simp [Machine.advance, visit, inside, here, inert]
  | @perform _ statement _ _ comes plain does =>
    rw [advance_reads comes, execute, does]
    cases statement with
    | assignment | print => rfl
    | question | loop => exact plain.elim
  | idle comes does =>
    rw [advance_reads comes, execute, does]
    rfl
  | begin comes does runs room =>
    rw [advance_reads comes, execute, does]
    simp [Nat.pos_iff_ne_zero.mp runs, room]
  | again ends more room => simp [Machine.advance, turnBack, ends, more, room]
  | leave ends spent => simp [Machine.advance, turnBack, ends, spent]

theorem Stops.advance [CharacterNames] (stops : Stops limits lines config result) :
    advance limits lines config = .halt result := by
  cases stops with
  | finished inside past => simp [Machine.advance, inside, past]
  | asked comes does =>
    rw [advance_reads comes, execute, does]
  | full comes full => simp [Machine.advance, visit, comes.inside, comes.here, comes.active, full]
  | unread comes room fails =>
    simp [Machine.advance, visit, comes.inside, comes.here, comes.active, room, fails]
  | undone comes fails => rw [advance_reads comes, execute, fails]
  | crowded comes does runs full =>
    rw [advance_reads comes, execute, does]
    simp [Nat.pos_iff_ne_zero.mp runs, full]
  | cut ends more full => simp [Machine.advance, turnBack, ends, more, full]

private theorem moves_or_stops_of_reads [CharacterNames] {line : Line} {statement : Statement}
    (comes : Reads limits lines config line statement) :
    (∃ next, Moves limits lines config next) ∨ ∃ result, Stops limits lines config result := by
  cases does : Run.effect limits config.scope statement with
  | error failure => exact .inr ⟨_, .undone comes does⟩
  | ok effect =>
    obtain ⟨event, scope⟩ := effect
    cases statement with
    | question target prompt => exact .inr ⟨_, .asked comes does⟩
    | assignment | print => exact .inl ⟨_, .perform comes trivial does⟩
    | loop var limit text =>
      obtain ⟨value, -, count, -, rfl, -⟩ := Run.effect_loop.mp does
      by_cases runs : count = 0
      · subst runs
        exact .inl ⟨_, .idle comes does⟩
      · by_cases full : (config.after (.looping count) scope).Full limits
        · exact .inr ⟨_, .crowded comes does (Nat.pos_of_ne_zero runs) full⟩
        · exact .inl ⟨_, .begin comes does (Nat.pos_of_ne_zero runs) full⟩

/-- The rules cover every configuration. -/
theorem moves_or_stops [CharacterNames] (limits : Limits) (lines : List Line) (config : Config) :
    (∃ next, Moves limits lines config next) ∨ ∃ result, Stops limits lines config result := by
  cases ends : config.bodyEnd? with
  | some found =>
    obtain ⟨loop, outer⟩ := found
    by_cases more : loop.next < loop.count
    · by_cases full : config.Full limits
      · exact .inr ⟨_, .cut ends more full⟩
      · exact .inl ⟨_, .again ends more full⟩
    · exact .inl ⟨_, .leave ends more⟩
  | none =>
    cases here : lines[config.cursor]? with
    | none => exact .inr ⟨_, .finished ends here⟩
    | some line =>
      by_cases inert : line.isInert = true
      · exact .inl ⟨_, .skip ends here inert⟩
      · have comes : Comes lines config line := ⟨ends, here, by simpa using inert⟩
        by_cases full : config.Full limits
        · exact .inr ⟨_, .full comes full⟩
        · cases reads : Statement.ofLine line.content with
          | error failure => exact .inr ⟨_, .unread comes full reads⟩
          | ok statement => exact moves_or_stops_of_reads ⟨comes, full, reads⟩

/-- The function goes on exactly where a rule does. -/
theorem advance_eq_next_iff [CharacterNames] :
    advance limits lines config = .next next ↔ Moves limits lines config next := by
  refine ⟨fun advanced => ?_, Moves.advance⟩
  rcases moves_or_stops limits lines config with ⟨other, moves⟩ | ⟨other, stops⟩
  · rw [moves.advance] at advanced
    cases advanced
    exact moves
  · rw [stops.advance] at advanced
    cases advanced

/-- The function stops exactly where a rule does, with the same result. -/
theorem advance_eq_halt_iff [CharacterNames] :
    advance limits lines config = .halt result ↔ Stops limits lines config result := by
  refine ⟨fun advanced => ?_, Stops.advance⟩
  rcases moves_or_stops limits lines config with ⟨other, moves⟩ | ⟨other, stops⟩
  · rw [moves.advance] at advanced
    cases advanced
  · rw [stops.advance] at advanced
    cases advanced
    exact stops

/-! ## Runs of the machine -/

/-- The machine comes from one configuration to another. -/
def Reaches [CharacterNames] (limits : Limits) (lines : List Line) : Config → Config → Prop :=
  Relation.ReflTransGen (Moves limits lines)

/-- The machine stops in the end, with a result. -/
def Ends [CharacterNames] (limits : Limits) (lines : List Line) (config : Config)
    (result : Except Abort Response) : Prop :=
  ∃ last, Reaches limits lines config last ∧ Stops limits lines last result

/-- The configuration at the start of a run. -/
def entry (start : Nat) (scope : Scope) : Config := ⟨start, [], scope, []⟩

theorem Ends.prepend [CharacterNames] {earlier : Config}
    (reaches : Reaches limits lines earlier config)
    (ends : Ends limits lines config result) : Ends limits lines earlier result := by
  obtain ⟨last, later, stops⟩ := ends
  exact ⟨last, reaches.trans later, stops⟩

/-- What every turn keeps holds wherever the machine comes to. -/
theorem Reaches.invariant [CharacterNames] {kept : Config → Prop} {last : Config}
    (turn : ∀ {earlier next}, Reaches limits lines config earlier → kept earlier →
      Moves limits lines earlier next → kept next)
    (holds : kept config) (reaches : Reaches limits lines config last) : kept last := by
  induction reaches with
  | refl => exact holds
  | tail earlier moves ih => exact turn earlier ih moves

/-- A machine that ends does so from wherever it has come to. -/
theorem Reaches.ends [CharacterNames] {last : Config} (reaches : Reaches limits lines config last)
    (ends : Ends limits lines config result) : Ends limits lines last result := by
  induction reaches with
  | refl => exact ends
  | tail _ moves ih =>
    obtain ⟨final, later, stops⟩ := ih
    rcases Relation.ReflTransGen.cases_head later with rfl | ⟨other, first, rest⟩
    · have same := stops.advance.symm.trans moves.advance
      cases same
    · have same := first.advance.symm.trans moves.advance
      cases same
      exact ⟨final, rest, stops⟩

/-- The machine has one result. -/
theorem Ends.unique [CharacterNames] {other : Except Abort Response}
    (first : Ends limits lines config result)
    (second : Ends limits lines config other) : result = other := by
  obtain ⟨last, reaches, stops⟩ := first
  obtain ⟨final, later, stopped⟩ := reaches.ends second
  rcases Relation.ReflTransGen.cases_head later with rfl | ⟨next, moves, -⟩
  · have same := stops.advance.symm.trans stopped.advance
    cases same
    rfl
  · have same := stops.advance.symm.trans moves.advance
    cases same

end StepTrace.Machine
