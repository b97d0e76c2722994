import Mathlib.Data.List.TakeWhile
import StepTrace.Proofs.Machine
import StepTrace.Proofs.Outline.Parts

/-!
# Runs on the machine

Following the outline of a program and turning the machine over its lines come to the
same result. A part of the lines is run by the machine from its first place to the one
past its end, under the loops that are open around it.
-/

namespace StepTrace.Machine

variable {limits : Limits} {lines part rest tail : List Line} {line : Line} {state : State}
  {config : Config} {start mid past : Nat} {inner loops : List OpenLoop}

/-- The configuration of the machine in the state of a run. -/
def place (cursor : Nat) (loops : List OpenLoop) (state : State) : Config :=
  ⟨cursor, loops, state.scope, state.steps.reverse⟩

/-- The room that is left goes together with the steps that were recorded. -/
def Fits (limits : Limits) (state : State) : Prop :=
  state.steps.length + state.remaining = limits.steps.toNat

/-- The machine comes to the end of a part that is done, with the same state, and
    stops with the same result where the part stops the run. -/
inductive Follows [CharacterNames] (limits : Limits) (lines : List Line) (config : Config)
    (past : Nat) (loops : List OpenLoop) : Outcome → Prop
  | done {state : State} (reaches : Reaches limits lines config (place past loops state))
      (fits : Fits limits state) : Follows limits lines config past loops (.ok (.done, state))
  | stopped {ending : Ending} {state : State} (early : ending ≠ .done)
      (ends : Ends limits lines config (.ok (Run.respond ending state))) :
      Follows limits lines config past loops (.ok (ending, state))
  | aborted {abort : Abort} (ends : Ends limits lines config (.error abort)) :
      Follows limits lines config past loops (.error abort)

/-- The innermost open loop goes on at least up to a place. -/
def Within (loops : List OpenLoop) (past : Nat) : Prop :=
  ∀ loop ∈ loops.head?, past ≤ loop.past

/-- The line after a part ends every block that begins in it. -/
def Encloses (part tail : List Line) : Prop :=
  ∀ line ∈ part, line.isBlank = false → ∀ next ∈ tail.head?,
    Source.continues line.indent next = false

/-! ## Room and places -/

theorem full_place (fits : Fits limits state) :
    (place start loops state).Full limits ↔ state.remaining = 0 := by
  unfold Fits at fits
  simp only [Config.Full, place, List.length_reverse]
  omega

private theorem fits_record {number : Nat} {event : Event} {scope : Scope}
    (fits : Fits limits state) (room : state.remaining ≠ 0) :
    Fits limits (State.record { state with scope } number event) := by
  unfold Fits at fits
  simp only [Fits, State.record, List.length_cons]
  omega

private theorem bodyEnd?_place (within : Within loops past) (before : start < past) :
    (place start loops state).bodyEnd? = none := by
  cases loops with
  | nil => rfl
  | cons loop outer =>
    have reaches : past ≤ loop.past := within loop rfl
    simp only [Config.bodyEnd?, place]
    exact if_neg (by omega)

private theorem getElem?_of_drop (here : lines.drop start = line :: rest) :
    lines[start]? = some line := by
  rw [← List.head?_drop, here]
  rfl

private theorem drop_of_drop (here : lines.drop start = line :: rest) :
    lines.drop (start + 1) = rest := by
  rw [← List.tail_drop, here]
  rfl

private theorem blockEnd_eq {indent : Nat} (here : lines.drop start = line :: (rest ++ tail))
    (ends : ∀ next ∈ tail.head?, Source.continues indent next = false) :
    blockEnd lines start indent = start + 1 + (rest.takeWhile (Source.continues indent)).length := by
  rw [blockEnd, drop_of_drop here, Source.takeWhile_append_of_ended fun _ => ends]

/-! ## Enclosed blocks -/

private theorem Encloses.mono {smaller : List Line} (encloses : Encloses part tail)
    (subset : ∀ line ∈ smaller, line ∈ part) : Encloses smaller tail :=
  fun line member => encloses line (subset line member)

/-- What follows a block ends the blocks inside it, because it is indented no deeper
    than the header and they are indented deeper. -/
private theorem Encloses.block (encloses : Encloses (line :: rest) tail)
    (visible : line.isBlank = false) :
    Encloses (rest.takeWhile (Source.continues line.indent))
      (rest.dropWhile (Source.continues line.indent) ++ tail) := by
  have ends : ∀ next ∈ (rest.dropWhile (Source.continues line.indent) ++ tail).head?,
      Source.continues line.indent next = false := by
    intro next first
    cases after : rest.dropWhile (Source.continues line.indent) with
    | nil =>
      rw [after, List.nil_append] at first
      exact encloses line List.mem_cons_self visible next first
    | cons head others =>
      rw [after, List.cons_append, List.head?_cons, Option.mem_some_iff] at first
      subst first
      exact Source.not_continues_of_head (by rw [after]; rfl)
  intro nested member seen next first
  have deeper : Source.continues line.indent nested = true := List.mem_takeWhile_imp member
  have shallow := ends next first
  simp only [Source.continues, seen, Bool.false_or, Bool.or_eq_false_iff, decide_eq_true_eq,
    decide_eq_false_iff_not] at deeper shallow ⊢
  exact ⟨shallow.1, by omega⟩

/-! ## Parts one after the other -/

private theorem Follows.prepend [CharacterNames] {earlier : Config} {outcome : Outcome}
    (reaches : Reaches limits lines earlier config)
    (follows : Follows limits lines config past loops outcome) :
    Follows limits lines earlier past loops outcome := by
  cases follows with
  | done later fits => exact .done (reaches.trans later) fits
  | stopped early ends => exact .stopped early (ends.prepend reaches)
  | aborted ends => exact .aborted (ends.prepend reaches)

private theorem Follows.andThen [CharacterNames] {first : Outcome} {next : State → Outcome}
    (follows : Follows limits lines config mid inner first)
    (later : ∀ state, Fits limits state →
      Follows limits lines (place mid inner state) past loops (next state)) :
    Follows limits lines config past loops (first.andThen next) := by
  cases follows with
  | @done state reaches fits => exact (later state fits).prepend reaches
  | @stopped ending state early ends =>
    rw [Run.andThen_of_early early]
    exact .stopped early ends
  | aborted ends => exact .aborted ends

private theorem Follows.refuse [CharacterNames] {after : State} {header : Nat} {scope : Scope}
    {failure : Failure} (stops : Stops limits lines (place start loops state)
      ((place start loops state).refuse header scope failure))
    (same : after.steps = state.steps) (left : after.scope = scope) :
    Follows limits lines (place start loops state) past inner (after.refuse (header + 1) failure) := by
  have ends : Ends limits lines (place start loops state) _ := ⟨_, .refl, stops⟩
  cases failure with
  | abort abort => exact .aborted ends
  | fault fault =>
    refine .stopped (by simp) ?_
    simpa [Config.refuse, Run.respond, place, same, left] using ends

/-! ## Loops -/

/-- What is left of a loop after one of its times was recorded: its body, and then the
    times that come after it. -/
private theorem follows_times [CharacterNames] {header count : Nat} {var : String}
    {body : State → Outcome} (bodyFollows : ∀ next state, Fits limits state →
      Follows limits lines (place (header + 1) (⟨header, var, next, count, past⟩ :: loops) state)
        past (⟨header, var, next, count, past⟩ :: loops) (body state)) (times index : Nat)
    (counted : index + 1 + times = count) (fits : Fits limits state) :
    Follows limits lines (place (header + 1) (⟨header, var, index + 1, count, past⟩ :: loops) state)
      past loops
      ((body state).andThen (Run.iterate limits (header + 1) var body times (index + 1))) := by
  induction times generalizing index state with
  | zero =>
    refine (bodyFollows (index + 1) state fits).andThen fun after afterFits => ?_
    have ends : (place past (⟨header, var, index + 1, count, past⟩ :: loops) after).bodyEnd? =
        some (⟨header, var, index + 1, count, past⟩, loops) := if_pos rfl
    exact .done (.single (.leave ends (by simp only; omega))) afterFits
  | succ times ih =>
    refine (bodyFollows (index + 1) state fits).andThen fun after afterFits => ?_
    have ends : (place past (⟨header, var, index + 1, count, past⟩ :: loops) after).bodyEnd? =
        some (⟨header, var, index + 1, count, past⟩, loops) := if_pos rfl
    have more : index + 1 < count := by omega
    rw [Run.iterate]
    by_cases full : after.remaining = 0
    · rw [if_pos full]
      have stops : Stops limits lines _ _ := .cut ends more ((full_place afterFits).mpr full)
      exact Follows.refuse stops rfl rfl
    · rw [if_neg full]
      have room : ¬ (place past (⟨header, var, index + 1, count, past⟩ :: loops) after).Full limits :=
        mt (full_place afterFits).mp full
      have entered : (place past (⟨header, var, index + 1, count, past⟩ :: loops) after).enter
            ⟨header, var, index + 1, count, past⟩ loops =
          place (header + 1) (⟨header, var, index + 1 + 1, count, past⟩ :: loops)
            ((after.assign var (.int ((index + 1 : Nat) : Int))).record (header + 1)
              (.iteration var (index + 1))) := by
        simp [Config.enter, Config.bound, place, State.record, State.assign]
      have step : Moves limits lines _ _ := .again ends more room
      rw [entered] at step
      exact (ih (index + 1) (by omega) (fits_record afterFits full)).prepend (.single step)

/-! ## Statements -/

/-- A statement that is no header. -/
private theorem follows_single [CharacterNames] {statement : Statement} {body : State → Outcome}
    (fits : Fits limits state)
    (comes : Reads limits lines (place start loops state) line statement)
    (single : ∀ var count text, statement ≠ .loop var count text) :
    Follows limits lines (place start loops state) (start + 1) loops
      (Run.perform limits (start + 1) body statement state) := by
  have room : state.remaining ≠ 0 := mt (full_place fits).mpr comes.room
  rw [Run.perform]
  cases does : Run.effect limits state.scope statement with
  | error failure => exact Follows.refuse (.undone comes does) rfl rfl
  | ok effect =>
    obtain ⟨event, scope⟩ := effect
    have recorded : (place start loops state).after event scope =
        place start loops (State.record { state with scope } (start + 1) event) := by
      simp [Config.after, place, State.record]
    cases statement with
    | question target prompt =>
      have ends : Ends limits lines (place start loops state) _ := ⟨_, .refl, .asked comes does⟩
      rw [recorded] at ends
      exact .stopped (by simp) ends
    | assignment | print =>
      have step := Moves.perform comes trivial does
      rw [recorded] at step
      exact .done (.single step) (fits_record fits room)
    | loop var count text => exact absurd rfl (single var count text)

/-- The header of a loop. -/
private theorem follows_header [CharacterNames] {var : String} {count : Expr} {text : List Char}
    {body : State → Outcome} (fits : Fits limits state)
    (comes : Reads limits lines (place start loops state) line (.loop var count text))
    (ends : blockEnd lines start line.indent = past)
    (bodyFollows : ∀ times next state, Fits limits state →
      Follows limits lines (place (start + 1) (⟨start, var, next, times, past⟩ :: loops) state)
        past (⟨start, var, next, times, past⟩ :: loops) (body state)) :
    Follows limits lines (place start loops state) past loops
      (Run.perform limits (start + 1) body (.loop var count text) state) := by
  have room : state.remaining ≠ 0 := mt (full_place fits).mpr comes.room
  rw [Run.perform]
  cases does : Run.effect limits state.scope (.loop var count text) with
  | error failure => exact Follows.refuse (.undone comes does) rfl rfl
  | ok effect =>
    obtain ⟨event, scope⟩ := effect
    obtain ⟨value, -, times, -, rfl, -⟩ := Run.effect_loop.mp does
    have recorded : (place start loops state).after (.looping times) scope =
        place start loops (State.record { state with scope } (start + 1) (.looping times)) := by
      simp [Config.after, place, State.record]
    have recordedFits : Fits limits
        (State.record { state with scope } (start + 1) (.looping times)) := fits_record fits room
    have last : ((place start loops state).after (.looping times) scope).Full limits ↔
        state.remaining = 1 := by
      rw [recorded, full_place recordedFits]
      simp only [State.record]
      omega
    cases times with
    | zero =>
      have step := Moves.idle comes does
      rw [recorded] at step
      simp only [show (place start loops state).cursor = start from rfl, ends] at step
      exact .done (.single step) recordedFits
    | succ times =>
      by_cases crowded : state.remaining = 1
      · simp only [crowded, Nat.succ_pos, and_self, if_true]
        exact Follows.refuse (.crowded comes does (Nat.succ_pos times) (last.mpr crowded)) rfl rfl
      · have step := Moves.begin comes does (Nat.succ_pos times) (mt last.mp crowded)
        have entered : ((place start loops state).after (.looping (times + 1)) scope).enter
              ((place start loops state).opened var (times + 1) past) loops =
            place (start + 1) (⟨start, var, 0 + 1, times + 1, past⟩ :: loops)
              (((State.record { state with scope } (start + 1) (.looping (times + 1))).assign var
                (.int ((0 : Nat) : Int))).record (start + 1) (.iteration var 0)) := by
          simp [Config.after, Config.enter, Config.opened, Config.bound, place, State.record,
            State.assign]
        simp only [show (place start loops state).cursor = start from rfl, ends] at step
        rw [show (place start loops state).loops = loops from rfl, entered] at step
        have spare : (State.record { state with scope } (start + 1)
            (.looping (times + 1))).remaining ≠ 0 := by
          simp only [State.record]
          omega
        simp only [crowded, and_false, if_false]
        rw [Run.iterate, if_neg spare]
        exact (follows_times (bodyFollows (times + 1)) times 0 (by omega)
          (fits_record recordedFits spare)).prepend (.single step)

/-! ## Items -/

theorem item_of_full {number : Nat} {reading : Except Failure Statement}
    {body : List Item} (full : state.remaining = 0) :
    Run.item limits (.mk number reading body) state =
      state.refuse number (Run.stepLimit limits) := by
  rw [Run.item.eq_def]
  exact if_pos full

theorem item_of_room {number : Nat} {reading : Except Failure Statement}
    {body : List Item} (room : state.remaining ≠ 0) :
    Run.item limits (.mk number reading body) state =
      match reading with
      | .error failure => state.refuse number failure
      | .ok statement => Run.perform limits number (Run.items limits body) statement state := by
  rw [Run.item.eq_def]
  exact if_neg room

/-- A line that is no header and its item. -/
private theorem follows_line [CharacterNames] (fits : Fits limits state)
    (comes : Comes lines (place start loops state) line)
    (single : ∀ var count text, Statement.ofLine line.content ≠ .ok (.loop var count text)) :
    Follows limits lines (place start loops state) (start + 1) loops
      (Run.item limits (.mk (start + 1) (Statement.ofLine line.content) []) state) := by
  by_cases full : state.remaining = 0
  · have stops : Stops limits lines _ _ := .full comes ((full_place fits).mpr full)
    rw [item_of_full full]
    exact Follows.refuse stops rfl rfl
  · have room : ¬ (place start loops state).Full limits := mt (full_place fits).mp full
    cases reads : Statement.ofLine line.content with
    | error failure =>
      rw [item_of_room full]
      exact Follows.refuse (.unread comes room reads) rfl rfl
    | ok statement =>
      rw [item_of_room full]
      refine follows_single fits ⟨comes, room, reads⟩ fun var count text same => ?_
      exact single var count text (by rw [reads, same])

/-- The header of a loop and its item. -/
private theorem follows_loop [CharacterNames] {var : String} {count : Expr} {text : List Char}
    {body : List Item} (fits : Fits limits state)
    (comes : Comes lines (place start loops state) line)
    (reads : Statement.ofLine line.content = .ok (.loop var count text))
    (ends : blockEnd lines start line.indent = past)
    (bodyFollows : ∀ times next state, Fits limits state →
      Follows limits lines (place (start + 1) (⟨start, var, next, times, past⟩ :: loops) state)
        past (⟨start, var, next, times, past⟩ :: loops) (Run.items limits body state)) :
    Follows limits lines (place start loops state) past loops
      (Run.item limits (.mk (start + 1) (.ok (.loop var count text)) body) state) := by
  by_cases full : state.remaining = 0
  · have stops : Stops limits lines _ _ := .full comes ((full_place fits).mpr full)
    rw [item_of_full full]
    exact Follows.refuse stops rfl rfl
  · rw [item_of_room full]
    exact follows_header fits ⟨comes, mt (full_place fits).mp full, reads⟩ ends bodyFollows

/-! ## Programs -/

/-- The lines carry their numbers, counted from one. -/
def Numbered (lines : List Line) : Prop :=
  ∀ (index : Nat) (line : Line), lines[index]? = some line → line.number = index + 1

theorem numbered_lines (code : List Char) : Numbered (Source.lines code) := by
  intro index line here
  simp only [Source.lines, List.getElem?_map, List.getElem?_zipIdx, Option.map_map,
    Option.map_eq_some_iff] at here
  obtain ⟨text, -, rfl⟩ := here
  simp only [Function.comp_apply]
  omega

/-- The machine follows the outline of a part of its lines, by induction on the number
    of the lines. The line after the part has to end every block that begins in it, and
    the open loops have to go on up to there. -/
theorem follows_items [CharacterNames] (numbered : Numbered lines) (part tail : List Line)
    (start : Nat) (loops : List OpenLoop) (state : State) (here : lines.drop start = part ++ tail)
    (encloses : Encloses part tail) (within : Within loops (start + part.length))
    (fits : Fits limits state) :
    Follows limits lines (place start loops state) (start + part.length) loops
      (Run.items limits (outline part) state) := by
  match part with
  | [] =>
    rw [outline_nil, Run.items]
    exact .done .refl fits
  | line :: rest =>
    have current : lines[start]? = some line := getElem?_of_drop here
    have next : lines.drop (start + 1) = rest ++ tail := drop_of_drop here
    have inside : (place start loops state).bodyEnd? = none :=
      bodyEnd?_place within (by simp)
    have length : start + (line :: rest).length = start + 1 + rest.length := by
      simp only [List.length_cons]
      omega
    rw [length] at within ⊢
    have restEncloses : Encloses rest tail :=
      encloses.mono fun _ member => List.mem_cons_of_mem line member
    have later : ∀ after, Fits limits after →
        Follows limits lines (place (start + 1) loops after) (start + 1 + rest.length) loops
          (Run.items limits (outline rest) after) :=
      fun after => follows_items numbered rest tail (start + 1) loops after next restEncloses within
    by_cases inert : line.isInert = true
    · rw [outline_inert rest inert]
      exact (later state fits).prepend (.single (.skip inside current inert))
    · have active : line.isInert = false := by simpa using inert
      have comes : Comes lines (place start loops state) line := ⟨inside, current, active⟩
      have number : line.number = start + 1 := numbered start line current
      by_cases header : ∃ var count text, Statement.ofLine line.content = .ok (.loop var count text)
      · obtain ⟨var, count, text, reads⟩ := header
        have visible : line.isBlank = false := isBlank_of_active active
        have ends := encloses line List.mem_cons_self visible
        have whole := Source.takeWhile_append_afterBlock line.indent rest
        have lengths := congrArg List.length whole
        rw [List.length_append] at lengths
        have bodyHere : lines.drop (start + 1) = rest.takeWhile (Source.continues line.indent) ++
            (Source.afterBlock line.indent rest ++ tail) := by
          rw [next, ← List.append_assoc, whole]
        have restHere : lines.drop
            (start + 1 + (rest.takeWhile (Source.continues line.indent)).length) =
              Source.afterBlock line.indent rest ++ tail := by
          rw [← List.drop_drop, bodyHere, List.drop_left]
        have bodyFollows : ∀ times next state, Fits limits state → _ := fun times next state =>
          follows_items numbered (rest.takeWhile (Source.continues line.indent))
            (Source.afterBlock line.indent rest ++ tail) (start + 1)
            (⟨start, var, next, times,
              start + 1 + (rest.takeWhile (Source.continues line.indent)).length⟩ :: loops)
            state bodyHere (encloses.block visible) (by simp [Within])
        have afterFollows := follows_items numbered (Source.afterBlock line.indent rest) tail
          (start + 1 + (rest.takeWhile (Source.continues line.indent)).length) loops
        rw [outline_loop rest active reads, number, Run.items, outline_block]
        refine (follows_loop fits comes reads (blockEnd_eq here ends) bodyFollows).andThen
          fun after afterFits => ?_
        have remaining := afterFollows after restHere
          (restEncloses.mono fun _ member => (List.dropWhile_sublist _).subset member)
        rw [Nat.add_assoc (start + 1), lengths] at remaining
        exact remaining within afterFits
      · have single : ∀ var count text,
            Statement.ofLine line.content ≠ .ok (.loop var count text) :=
          fun var count text reads => header ⟨var, count, text, reads⟩
        rw [outline_line rest active single, number, Run.items]
        exact (follows_line fits comes single).andThen later
termination_by part.length
decreasing_by
  · simp
  · have := (List.takeWhile_sublist (Source.continues line.indent) (l := rest)).length_le
    simp only [List.length_cons]
    omega
  · have := Source.length_afterBlock_le line.indent rest
    simp only [List.length_cons]
    omega

/-- The variables before the first line, an answer included. -/
def entered (scope : Scope) (answer : Option Answer) : Scope :=
  answer.elim scope fun answer => scope.set answer.target (Answer.value answer.text)

theorem entryScope_eq_ok {scope before : Scope} {answer : Option Answer} :
    Run.entryScope scope answer = .ok before ↔
      (∀ given ∈ answer, Text.isIdentifier given.target.toList = true) ∧
        entered scope answer = before := by
  unfold Run.entryScope entered
  cases answer with
  | none => simp
  | some given => by_cases named : Text.isIdentifier given.target.toList = true <;> simp [named]

section
variable {code : List Char} {scope : Scope} {start : Int} {answer : Option Answer}

/-- A run follows the outline of its lines from the first one on. -/
theorem run_eq_map_items [CharacterNames] (limits : Limits) (code : List Char) (forward : 0 ≤ start)
    (named : ∀ given ∈ answer, Text.isIdentifier given.target.toList = true) :
    run limits code scope start answer =
      (Run.items limits (outline ((Source.lines code).drop start.toNat))
        (Run.entryState limits (entered scope answer))).map
          fun part => Run.respond part.1 part.2 := by
  have enters : Run.entryScope scope answer = .ok (entered scope answer) :=
    entryScope_eq_ok.mpr ⟨named, rfl⟩
  simp only [run, enters, Int.not_lt.mpr forward, if_false]
  rfl

/-- The machine follows the outline of a program from a line on. -/
theorem follows_lines [CharacterNames] (limits : Limits) (code : List Char) (start : Nat)
    (scope : Scope) : Follows limits (Source.lines code) (entry start scope)
      (start + ((Source.lines code).drop start).length) []
      (Run.items limits (outline ((Source.lines code).drop start)) (Run.entryState limits scope)) :=
  follows_items (numbered_lines code) ((Source.lines code).drop start) [] start []
    (Run.entryState limits scope) (by simp) (by simp [Encloses]) (by simp [Within])
    (by simp [Fits, Run.entryState])

/-- What the machine follows up to the end of the program is what it comes to. -/
theorem Follows.ends [CharacterNames] {outcome : Outcome}
    (follows : Follows limits lines config past [] outcome) (finished : lines[past]? = none) :
    Ends limits lines config (outcome.map fun part => Run.respond part.1 part.2) := by
  cases follows with
  | done reaches _ => exact ⟨_, reaches, .finished rfl finished⟩
  | stopped _ ends => exact ends
  | aborted ends => exact ends

/-- A run returns what the machine comes to from its first line on. -/
theorem ends_run [CharacterNames] (limits : Limits) (code : List Char) (forward : 0 ≤ start)
    (named : ∀ given ∈ answer, Text.isIdentifier given.target.toList = true) :
    Ends limits (Source.lines code) (entry start.toNat (entered scope answer))
      (run limits code scope start answer) := by
  rw [run_eq_map_items limits code forward named]
  refine (follows_lines limits code start.toNat (entered scope answer)).ends ?_
  rw [List.getElem?_eq_none_iff, List.length_drop]
  omega

/-- What it takes for a run to return a response. -/
theorem run_eq_ok_iff [CharacterNames] {response : Response} :
    run limits code scope start answer = .ok response ↔
      0 ≤ start ∧ (∀ given ∈ answer, Text.isIdentifier given.target.toList = true) ∧
        ∃ ending state, Run.items limits (outline ((Source.lines code).drop start.toNat))
            (Run.entryState limits (entered scope answer)) = .ok (ending, state) ∧
          Run.respond ending state = response := by
  by_cases forward : 0 ≤ start
  · by_cases named : ∀ given ∈ answer, Text.isIdentifier given.target.toList = true
    · rw [run_eq_map_items limits code forward named, Run.map_eq_ok]
      exact ⟨fun ⟨part, came, same⟩ => ⟨forward, named, part.1, part.2, came, same⟩,
        fun ⟨_, _, ending, state, came, same⟩ => ⟨(ending, state), came, same⟩⟩
    · refine ⟨fun returns => absurd ?_ named, fun ⟨_, both, _⟩ => absurd both named⟩
      cases enters : Run.entryScope scope answer with
      | error abort => simp [run, Int.not_lt.mpr forward, enters, bind, Except.bind] at returns
      | ok before => exact (entryScope_eq_ok.mp enters).1
  · refine ⟨fun returns => ?_, fun both => absurd both.1 forward⟩
    simp [run, Int.not_le.mp forward, throw, throwThe, MonadExceptOf.throw, bind, Except.bind]
      at returns

/-- A run that returns a response started at a line, and the machine comes to the
    response from there. -/
theorem ends_of_run_eq_ok [CharacterNames] {response : Response}
    (returns : run limits code scope start answer = .ok response) :
    0 ≤ start ∧
      Ends limits (Source.lines code) (entry start.toNat (entered scope answer)) (.ok response) := by
  obtain ⟨forward, named, -⟩ := run_eq_ok_iff.mp returns
  exact ⟨forward, returns ▸ ends_run limits code forward named⟩

end

end StepTrace.Machine
