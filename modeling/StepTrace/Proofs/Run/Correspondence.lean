import Mathlib.Data.List.Forall2
import Mathlib.Order.Monotone.Basic
import StepTrace.Proofs.Machine.Simulation

/-!
# Runs that correspond

Two programs whose lines correspond one to one are run step by step alike, the step limit
included. What may differ is given by a correspondence: the numbers of the lines, how deep they
are indented, the variables, and where a fault says that it was found. Main statements: states
that correspond lead to outcomes that do (`outcomes_items`), and runs to responses that do
(`run_corresponds`).
-/

namespace StepTrace

open Machine (entered entryScope_eq_ok item_of_full item_of_room run_eq_map_items)
open Run (effect items iterate perform stepLimit)

namespace Response

/-- A response with every step changed. -/
def mapSteps (change : Step → Step) (response : Response) : Response :=
  { response with trace := response.trace.map change }

variable {change : Step → Step} {response : Response}

theorem status_mapSteps (asks : ∀ step, (change step).asked? = step.asked?) :
    (response.mapSteps change).status = response.status := by
  have last : ((response.mapSteps change).trace.getLast?.bind Step.asked?) =
      response.trace.getLast?.bind Step.asked? := by
    rw [mapSteps, List.getLast?_map]
    cases response.trace.getLast? with
    | none => rfl
    | some step => exact asks step
  rw [status, status, last, mapSteps]

theorem outputs_mapSteps (prints : ∀ step, (change step).output? = step.output?) :
    (response.mapSteps change).outputs = response.outputs := by
  rw [outputs, outputs, mapSteps, List.filterMap_map]
  exact congrArg (List.filterMap · response.trace) (funext prints)

end Response

/-- In what two programs and their runs may differ. A deeper indentation stays a deeper one, and
    a fault without a place corresponds to itself. -/
structure Correspondence where
  /-- The number of the line that corresponds to the line of a number. -/
  number : Nat → Nat
  /-- The width of an indentation in the other program. -/
  width : Nat → Nat
  scopes : Scope → Scope → Prop
  faults : Fault → Fault → Prop
  widens : StrictMono width
  faults_self : ∀ fault, faults fault fault

namespace Correspondence

/-! ## What corresponds -/

variable (link : Correspondence)

inductive Failures : Failure → Failure → Prop
  | fault {fault other : Fault} (faults : link.faults fault other) : Failures (.fault fault) (.fault other)
  | abort (abort : Abort) : Failures (.abort abort) (.abort abort)

inductive Events : Event → Event → Prop
  | same (event : Event) : Events event event
  | failed {fault other : Fault} (faults : link.faults fault other) :
    Events (.failed fault) (.failed other)

structure Steps (step other : Step) : Prop where
  line : other.line = link.number step.line
  event : link.Events step.event other.event
  scope : link.scopes step.scope other.scope

structure States (state other : State) : Prop where
  scope : link.scopes state.scope other.scope
  steps : List.Forall₂ link.Steps state.steps other.steps
  room : other.remaining = state.remaining

inductive Endings : Ending → Ending → Prop
  | done : Endings .done .done
  | paused : Endings .paused .paused
  | failed {fault other : Fault} (faults : link.faults fault other) :
    Endings (.failed fault) (.failed other)

inductive Outcomes : Outcome → Outcome → Prop
  | reached {ending other : Ending} {state after : State} (endings : link.Endings ending other)
      (states : link.States state after) : Outcomes (.ok (ending, state)) (.ok (other, after))
  | aborted (abort : Abort) : Outcomes (.error abort) (.error abort)

/-- What a statement does in scopes that correspond. -/
inductive Effects : Except Failure (Event × Scope) → Except Failure (Event × Scope) → Prop
  | does {event : Event} {scope other : Scope} (scopes : link.scopes scope other) :
    Effects (.ok (event, scope)) (.ok (event, other))
  | fails {failure other : Failure} (failures : link.Failures failure other) :
    Effects (.error failure) (.error other)

/-- A statement does in scopes that correspond what corresponds, and if it is a loop, setting its
    variable keeps them so. -/
structure Respects (limits : Limits) (statement : Statement) : Prop where
  effects : ∀ scope other, link.scopes scope other →
    link.Effects (effect limits scope statement) (effect limits other statement)
  counts : ∀ var count text, statement = .loop var count text → ∀ scope other value,
    link.scopes scope other → link.scopes (scope.set var value) (other.set var value)

inductive Readings (limits : Limits) : Except Failure Statement → Except Failure Statement → Prop
  | reads {statement : Statement} (respects : link.Respects limits statement) :
    Readings limits (.ok statement) (.ok statement)
  | fails {failure other : Failure} (failures : link.Failures failure other) :
    Readings limits (.error failure) (.error other)

structure Lines [CharacterNames] (limits : Limits) (line other : Line) : Prop where
  number : other.number = link.number line.number
  blank : other.isBlank = line.isBlank
  inert : other.isInert = line.isInert
  indent : line.isBlank = false → other.indent = link.width line.indent
  reading : line.isInert = false →
    link.Readings limits (Statement.ofLine line.content) (Statement.ofLine other.content)

/-- Runs of corresponding lines end in the same abort or return corresponding steps and faults. -/
inductive Results : Except Abort Response → Except Abort Response → Prop
  | returned {response other : Response} (steps : List.Forall₂ link.Steps response.trace other.trace)
      (error : Option.Rel link.faults response.error other.error) :
      Results (.ok response) (.ok other)
  | aborted (abort : Abort) : Results (.error abort) (.error abort)

variable {link} {limits : Limits} {state other : State} {outcome twin : Outcome} {line next : Line}
  {lines others : List Line} {indent number : Nat}

theorem Failures.self (failure : Failure) : link.Failures failure failure := by
  cases failure with
  | fault fault => exact .fault (link.faults_self fault)
  | abort abort => exact .abort abort

/-- Where corresponding faults are equal, so are corresponding events. -/
theorem Events.eq {event twin : Event} (faults : ∀ fault other, link.faults fault other → other = fault)
    (events : link.Events event twin) : twin = event := by
  cases events with
  | same => rfl
  | failed related => rw [faults _ _ related]

/-- Where the same variables correspond, every statement respects the correspondence. -/
theorem Respects.of_eq (same : ∀ scope other, link.scopes scope other ↔ other = scope)
    (statement : Statement) : link.Respects limits statement where
  effects := by
    intro scope other scopes
    obtain rfl := (same _ _).mp scopes
    cases effect limits other statement with
    | error failure => exact .fails (.self failure)
    | ok result => exact .does ((same _ _).mpr rfl)
  counts := by
    intro var count text _ scope other value scopes
    rw [(same _ _).mp scopes]
    exact (same _ _).mpr rfl

theorem Readings.of_eq (same : ∀ scope other, link.scopes scope other ↔ other = scope)
    (reading : Except Failure Statement) : link.Readings limits reading reading := by
  cases reading with
  | error failure => exact .fails (.self failure)
  | ok statement => exact .reads (.of_eq same statement)

/-! ## Parts of a run -/

theorem Outcomes.andThen {rest twinRest : State → Outcome} (first : link.Outcomes outcome twin)
    (second : ∀ state other, link.States state other → link.Outcomes (rest state) (twinRest other)) :
    link.Outcomes (outcome.andThen rest) (twin.andThen twinRest) := by
  cases first with
  | aborted abort => exact .aborted abort
  | reached endings states =>
    cases endings with
    | done => exact second _ _ states
    | paused => exact .reached .paused states
    | failed faults => exact .reached (.failed faults) states

theorem States.record (states : link.States state other) {scope after : Scope}
    (scopes : link.scopes scope after) (number : Nat) (event : Event) :
    link.States (State.record { state with scope } number event)
      (State.record { other with scope := after } (link.number number) event) where
  scope := scopes
  steps := .cons ⟨rfl, .same event, scopes⟩ states.steps
  room := by rw [State.record, State.record, states.room]

theorem Outcomes.refuse (states : link.States state other) {failure twin : Failure}
    (failures : link.Failures failure twin) (number : Nat) :
    link.Outcomes (state.refuse number failure) (other.refuse (link.number number) twin) := by
  cases failures with
  | abort abort => exact .aborted abort
  | fault faults =>
    exact .reached (.failed faults)
      ⟨states.scope, .cons ⟨rfl, .failed faults, states.scope⟩ states.steps, states.room⟩

/-- The times of a loop, where its body and the setting of its variable keep the
    correspondence. -/
theorem outcomes_iterate {var : String} {body twinBody : State → Outcome}
    (counts : ∀ scope other value, link.scopes scope other →
      link.scopes (scope.set var value) (other.set var value))
    (bodies : ∀ state other, link.States state other → link.Outcomes (body state) (twinBody other))
    (times index : Nat) (states : link.States state other) :
    link.Outcomes (iterate limits number var body times index state)
      (iterate limits (link.number number) var twinBody times index other) := by
  induction times generalizing index state other with
  | zero => exact .reached .done states
  | succ times ih =>
    have scopes := counts _ _ (.int index) states.scope
    have bound : link.States (state.assign var (.int index)) (other.assign var (.int index)) :=
      ⟨scopes, states.steps, states.room⟩
    rw [iterate, iterate, states.room]
    by_cases full : state.remaining = 0
    · rw [if_pos full, if_pos full]
      exact .refuse bound (.self _) number
    · rw [if_neg full, if_neg full]
      exact (bodies _ _ (bound.record scopes number _)).andThen fun after later => ih (index + 1)

/-- A statement for which there is room. -/
theorem outcomes_perform {statement : Statement} {body twinBody : State → Outcome}
    (respects : link.Respects limits statement)
    (bodies : ∀ state other, link.States state other → link.Outcomes (body state) (twinBody other))
    (number : Nat) (states : link.States state other) :
    link.Outcomes (perform limits number body statement state)
      (perform limits (link.number number) twinBody statement other) := by
  have effects := respects.effects _ _ states.scope
  rw [perform, perform]
  generalize effect limits state.scope statement = does at effects
  generalize effect limits other.scope statement = doesToo at effects
  cases effects with
  | fails failures => exact .refuse states failures number
  | @does event scope after scopes =>
    have recorded := states.record scopes number event
    cases statement with
    | question => exact .reached .paused recorded
    | assignment | print => exact .reached .done recorded
    | loop var count text =>
      cases event with
      | looping times =>
        have same : (0 < times ∧ other.remaining = 1) ↔ (0 < times ∧ state.remaining = 1) := by
          rw [states.room]
        simp only
        by_cases crowded : 0 < times ∧ state.remaining = 1
        · rw [if_pos crowded, if_pos (same.mpr crowded)]
          exact .refuse states (.self _) number
        · rw [if_neg crowded, if_neg (mt same.mp crowded)]
          exact outcomes_iterate (respects.counts var count text rfl) bodies times 0 recorded
      | assigned | printed | awaiting | iteration | failed => exact .reached .done recorded

/-- An item whose reading and whose body correspond to those of another one. -/
theorem outcomes_item {reading twinReading : Except Failure Statement} {body twinBody : List Item}
    (readings : link.Readings limits reading twinReading)
    (bodies : ∀ state other, link.States state other →
      link.Outcomes (items limits body state) (items limits twinBody other))
    (number : Nat) (states : link.States state other) :
    link.Outcomes (Run.item limits (.mk number reading body) state)
      (Run.item limits (.mk (link.number number) twinReading twinBody) other) := by
  by_cases full : state.remaining = 0
  · rw [item_of_full full, item_of_full (states.room.trans full)]
    exact .refuse states (.self _) number
  · rw [item_of_room full, item_of_room (states.room.trans_ne full)]
    cases readings with
    | fails failures => exact .refuse states failures number
    | reads respects => exact outcomes_perform respects bodies number states

/-! ## Lines -/

section
variable {α β : Type} {related : α → β → Prop} {keep : α → Bool} {keepToo : β → Bool}
  {first : List α} {second : List β}

private theorem forall₂_takeWhile (same : ∀ a b, related a b → keepToo b = keep a)
    (all : List.Forall₂ related first second) :
    List.Forall₂ related (first.takeWhile keep) (second.takeWhile keepToo) := by
  induction all with
  | nil => exact .nil
  | @cons a b _ _ here _ ih =>
    rw [List.takeWhile_cons, List.takeWhile_cons, same a b here]
    cases keep a with
    | true => exact .cons here ih
    | false => exact .nil

private theorem forall₂_dropWhile (same : ∀ a b, related a b → keepToo b = keep a)
    (all : List.Forall₂ related first second) :
    List.Forall₂ related (first.dropWhile keep) (second.dropWhile keepToo) := by
  induction all with
  | nil => exact .nil
  | @cons a b _ _ here later ih =>
    rw [List.dropWhile_cons, List.dropWhile_cons, same a b here]
    cases keep a with
    | true => exact ih
    | false => exact .cons here later

end

/-- Deeper indented lines correspond to deeper indented ones. -/
theorem Lines.continues [CharacterNames] (indent : Nat)
    (corresponds : link.Lines limits line next) :
    Source.continues (link.width indent) next = Source.continues indent line := by
  rw [Source.continues, Source.continues, corresponds.blank]
  cases blank : line.isBlank with
  | true => rfl
  | false => simp [corresponds.indent blank, link.widens.lt_iff_lt]

theorem forall₂_block [CharacterNames] (all : List.Forall₂ (link.Lines limits) lines others)
    (indent : Nat) : List.Forall₂ (link.Lines limits) (Source.block indent lines)
      (Source.block (link.width indent) others) := by
  have visible : ∀ line next, link.Lines limits line next →
      ((!line.isBlank) = true ↔ (!next.isBlank) = true) := by
    intro line next corresponds
    rw [corresponds.blank]
  exact List.rel_filter visible (forall₂_takeWhile (fun _ _ => Lines.continues indent) all)

theorem forall₂_afterBlock [CharacterNames] (all : List.Forall₂ (link.Lines limits) lines others)
    (indent : Nat) : List.Forall₂ (link.Lines limits) (Source.afterBlock indent lines)
      (Source.afterBlock (link.width indent) others) :=
  forall₂_dropWhile (fun _ _ => Lines.continues indent) all

/-- A line whose counterpart reads as a loop is the header of one. -/
theorem Lines.reads_loop [CharacterNames] (corresponds : link.Lines limits line next)
    (active : line.isInert = false) {var : String} {count : Expr} {text : List Char} :
    Statement.ofLine next.content = .ok (.loop var count text) ↔
      Statement.ofLine line.content = .ok (.loop var count text) := by
  have readings := corresponds.reading active
  generalize Statement.ofLine line.content = reading at readings
  generalize Statement.ofLine next.content = twin at readings
  cases readings with
  | reads => rfl
  | fails => exact ⟨nofun, nofun⟩

/-- Lines that correspond lead from states that correspond to outcomes that do. By induction
    along the outline of the one program; that of the other has the same shape. -/
theorem outcomes_items [CharacterNames] (all : List.Forall₂ (link.Lines limits) lines others)
    (states : link.States state other) :
    link.Outcomes (items limits (outline lines) state) (items limits (outline others) other) := by
  induction lines using outline_induction generalizing others state other with
  | nil =>
    cases all
    rw [outline_nil, items, items]
    exact .reached .done states
  | inert line rest inert ih =>
    cases all with
    | cons here later =>
      rw [outline_inert rest inert, outline_inert _ (here.inert.trans inert)]
      exact ih later states
  | loop line rest var count text active reads ihBlock ihAfter =>
    cases all with
    | @cons _ next _ _ here later =>
      have activeToo := here.inert.trans active
      have readings := here.reading active
      rw [(here.reads_loop active).mpr reads, reads] at readings
      rw [outline_loop rest active reads, outline_loop _ activeToo ((here.reads_loop active).mpr reads),
        here.number, here.indent (isBlank_of_active active), items, items]
      refine (outcomes_item readings (fun _ _ => ihBlock (forall₂_block later _)) _ states).andThen
        fun _ _ => ihAfter (forall₂_afterBlock later _)
  | single line rest active single ih =>
    cases all with
    | @cons _ next _ _ here later =>
      have activeToo := here.inert.trans active
      have singleToo : ∀ var count text, Statement.ofLine next.content ≠ .ok (.loop var count text) :=
        fun var count text => mt (here.reads_loop active).mp (single var count text)
      rw [outline_line rest active single, outline_line _ activeToo singleToo, here.number, items,
        items]
      refine (outcomes_item (here.reading active) (fun _ _ states => ?_) _ states).andThen
        fun _ _ => ih later
      exact .reached .done states

/-! ## Programs -/

/-- Where corresponding faults are equal and corresponding steps are found by a function, so are
    the results. -/
theorem Results.eq_map {change : Step → Step} {result twin : Except Abort Response}
    (faults : ∀ fault other, link.faults fault other → other = fault)
    (steps : ∀ step other, link.Steps step other → other = change step)
    (results : link.Results result twin) :
    twin = result.map (Response.mapSteps change) := by
  cases results with
  | aborted abort => rfl
  | @returned response other forall₂ error =>
    obtain ⟨trace, failed⟩ := response
    obtain ⟨traceToo, failedToo⟩ := other
    have images : List.Forall₂ Eq (trace.map change) traceToo :=
      List.forall₂_map_left_iff.mpr (forall₂.imp fun _ _ related => (steps _ _ related).symm)
    rw [List.forall₂_eq_eq_eq] at images
    have sameError : failedToo = failed := by
      cases error with
      | none => rfl
      | some related => rw [faults _ _ related]
    rw [← images, sameError]
    rfl

theorem Results.of_outcomes (outcomes : link.Outcomes outcome twin) :
    link.Results (outcome.map fun part => Run.respond part.1 part.2)
      (twin.map fun part => Run.respond part.1 part.2) := by
  cases outcomes with
  | aborted abort => exact .aborted abort
  | reached endings states =>
    refine .returned (List.rel_reverse states.steps) ?_
    cases endings with
    | done | paused => exact .none
    | failed faults => exact .some faults

variable {code twinCode : List Char} {scope twinScope : Scope} {start : Int} {answer : Option Answer}

/-- Two programs are run alike where the lines of the one correspond to lines with the outline of
    the other, and so do the variables that the runs begin with. -/
theorem run_corresponds [CharacterNames]
    (all : List.Forall₂ (link.Lines limits) ((Source.lines code).drop start.toNat) lines)
    (outlines : outline ((Source.lines twinCode).drop start.toNat) = outline lines)
    (scopes : link.scopes (entered scope answer) (entered twinScope answer)) :
    link.Results (run limits code scope start answer) (run limits twinCode twinScope start answer) := by
  by_cases forward : 0 ≤ start
  · by_cases named : ∀ given ∈ answer, Text.isIdentifier given.target.toList = true
    · rw [run_eq_map_items limits code forward named, run_eq_map_items limits twinCode forward named,
        outlines]
      exact .of_outcomes (outcomes_items all ⟨scopes, .nil, rfl⟩)
    · obtain ⟨given, rfl, unnamed⟩ := by simpa using named
      simp only [run, Run.entryScope, unnamed, Int.not_lt.mpr forward, if_false, Bool.false_eq_true]
      exact .aborted _
  · have negative : start < 0 := Int.not_le.mp forward
    simp only [run, negative, if_true]
    exact .aborted _

end Correspondence

end StepTrace
