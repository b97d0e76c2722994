import StepTrace.Proofs.Run.Correspondence
import StepTrace.Proofs.Run.Mirror
import StepTrace.Proofs.Source

/-!
# Lines that do nothing

A blank line may be added anywhere, and a comment where it is indented like the next line that
is not blank: such a line is no part of the outline and ends no block that the next line does
not end (`outline_insert`). The run of the longer program is the same, with the lines after the
new one numbered on (`run_insert`).
-/

namespace StepTrace

open Source (block afterBlock continues firstVisible? linesFrom)

variable {front back rest : List Line} {line added next : Line} {indent : Nat}

/-! ## Outlines -/

/-- Where a block goes on to the end of some lines, it goes on with the lines after them. -/
private theorem block_append_of_all (all : ∀ other ∈ rest, continues indent other = true) :
    block indent (rest ++ back) = block indent rest ++ block indent back := by
  have whole : rest.takeWhile (continues indent) = rest := by
    rw [List.takeWhile_eq_self_iff]
    exact all
  rw [block, block, block, List.takeWhile_append_of_pos all, List.filter_append, whole]

private theorem afterBlock_append_of_all (all : ∀ other ∈ rest, continues indent other = true) :
    afterBlock indent (rest ++ back) = afterBlock indent back :=
  List.dropWhile_append_of_pos all

/-- The line after an added one, and the added one, are both no blank lines and are indented
    alike. -/
def Level (added : Line) (back : List Line) : Prop :=
  added.isBlank = false ∧ ∀ next ∈ back.head?, next.isBlank = false ∧ next.indent = added.indent

theorem Level.continues (level : Level added back) (first : next ∈ back.head?) :
    Source.continues indent next = Source.continues indent added := by
  obtain ⟨visible, deep⟩ := level.2 next first
  rw [Source.continues, Source.continues, visible, level.1, deep]

/-- A block that goes on with an added line goes on with the line after it. -/
theorem Level.block (level : Level added back) (goesOn : Source.continues indent added = true) :
    Level added (block indent back) := by
  refine ⟨level.1, fun next first => ?_⟩
  cases back with
  | nil => cases first
  | cons other others =>
    obtain ⟨visible, deep⟩ := level.2 other rfl
    have starts : Source.block indent (other :: others) = other :: Source.block indent others := by
      have goesOnToo : Source.continues indent other = true :=
        (level.continues rfl).trans goesOn
      rw [Source.block, List.takeWhile_cons_of_pos goesOnToo,
        List.filter_cons_of_pos (by simp [visible])]
      rfl
    rw [starts] at first
    obtain rfl := Option.some.inj first
    exact ⟨visible, deep⟩

/-- A comment that is indented like the line after it is no part of the outline. By induction
    along the outline of the lines before it: each block either ends before it, or goes on with
    both. -/
private theorem outline_insert_level [CharacterNames] (inert : added.isInert = true)
    (level : Level added back) : outline (front ++ added :: back) = outline (front ++ back) := by
  induction front using outline_induction generalizing back with
  | nil => exact outline_inert back inert
  | inert line rest passive ih =>
    rw [List.cons_append, List.cons_append, outline_inert _ passive, outline_inert _ passive, ih level]
  | single line rest active single ih =>
    rw [List.cons_append, List.cons_append, outline_line _ active single,
      outline_line _ active single, ih level]
  | loop line rest var count text active reads ihBlock ihAfter =>
    rw [List.cons_append, List.cons_append, outline_loop _ active reads, outline_loop _ active reads]
    by_cases within : (∀ other ∈ rest, continues line.indent other = true) ∧
        continues line.indent added = true
    · obtain ⟨all, goesOn⟩ := within
      have inner : block line.indent (added :: back) = added :: block line.indent back := by
        rw [block, List.takeWhile_cons_of_pos goesOn, List.filter_cons_of_pos (by simp [level.1])]
        rfl
      have after : afterBlock line.indent (added :: back) = afterBlock line.indent back :=
        List.dropWhile_cons_of_pos goesOn
      rw [block_append_of_all all, block_append_of_all all, afterBlock_append_of_all all,
        afterBlock_append_of_all all, inner, after, ihBlock (level.block goesOn)]
    · have ends : Source.Ended line.indent rest (added :: back) := by
        rintro all other ⟨⟩
        exact Bool.eq_false_iff.mpr fun goesOn => within ⟨all, goesOn⟩
      have endsToo : Source.Ended line.indent rest back := by
        intro all other first
        rw [level.continues first]
        exact ends all added rfl
      rw [Source.block_append ends, Source.block_append endsToo, Source.afterBlock_append ends,
        Source.afterBlock_append endsToo, ihAfter level]

/-- A line that does nothing is no part of the outline where it is blank or indented like the
    next line that is not. -/
theorem outline_insert [CharacterNames] (inert : added.isInert = true)
    (level : added.isBlank = false → ∀ next ∈ firstVisible? back, next.indent = added.indent) :
    outline (front ++ added :: back) = outline (front ++ back) := by
  rw [← outline_filter (front ++ added :: back), ← outline_filter (front ++ back),
    List.filter_append, List.filter_append]
  cases visible : added.isBlank with
  | true => rw [List.filter_cons_of_neg (by simp [visible])]
  | false =>
    rw [List.filter_cons_of_pos (by simp [visible])]
    refine outline_insert_level inert ⟨visible, fun next first => ?_⟩
    rw [List.head?_filter] at first
    have shown : next.isBlank = false := by simpa using List.find?_some first
    exact ⟨shown, level visible next first⟩

/-! ## Programs -/

variable {limits : Limits} {code text : List Char} {scope : Scope} {answer : Option Answer}
  {place : Nat}

/-- A program with a line added after so many others. -/
def Source.insert (code : List Char) (place : Nat) (text : List Char) : List Char :=
  Text.join ['\n'] ((Text.split '\n' code).take place ++ text :: (Text.split '\n' code).drop place)

/-- The number of a line after a line was added after so many others. -/
def pushed (place number : Nat) : Nat := if number ≤ place then number else number + 1

/-- A text is white space, or a comment that is indented like the next line of the program that
    is not blank. -/
def Passive (code : List Char) (place : Nat) (text : List Char) : Prop :=
  Text.trim text = [] ∨ (Text.trim text).head? = some '#' ∧
    ∀ next ∈ firstVisible? ((Source.lines code).drop place), next.indent = Text.indent text

/-- The lines after an added one are numbered on. -/
private theorem lines_insert (within : place ≤ (Source.lines code).length) (single : '\n' ∉ text) :
    Source.lines (Source.insert code place text) =
      ((Source.lines code).take place).map (Line.moved (pushed place)) ++
        ⟨place + 1, text⟩ :: ((Source.lines code).drop place).map (Line.moved (pushed place)) := by
  have count : ((Text.split '\n' code).take place).length = place := by
    rw [List.length_take]
    simp only [Source.lines, List.length_map, List.length_zipIdx] at within
    omega
  have before : ((Source.lines code).take place).map (Line.moved (pushed place)) =
      linesFrom 1 ((Text.split '\n' code).take place) := by
    rw [Source.lines_eq_linesFrom, Source.linesFrom_take]
    refine Source.linesFrom_moved fun index inside => ?_
    rw [pushed, if_pos (by omega)]
  have after : ((Source.lines code).drop place).map (Line.moved (pushed place)) =
      linesFrom (place + 2) ((Text.split '\n' code).drop place) := by
    rw [Source.lines_eq_linesFrom, Source.linesFrom_drop]
    refine Source.linesFrom_moved fun index _ => ?_
    rw [pushed, if_neg (by omega)]
    omega
  have free : ∀ part ∈ (Text.split '\n' code).take place ++ text :: (Text.split '\n' code).drop place,
      '\n' ∉ part := by
    intro part member
    rcases List.mem_append.mp member with earlier | rest
    · exact Text.not_mem_of_mem_split (List.mem_of_mem_take earlier)
    · rcases List.mem_cons.mp rest with rfl | later
      · exact single
      · exact Text.not_mem_of_mem_split (List.mem_of_mem_drop later)
  rw [Source.lines_eq_linesFrom, Source.insert, Text.split_join free (by simp), before, after,
    Source.linesFrom_append, count, linesFrom, Nat.add_comm 1 place]

/-- A line that does nothing leaves no trace in the outline. -/
private theorem outline_lines_insert [CharacterNames] (within : place ≤ (Source.lines code).length)
    (single : '\n' ∉ text) (passive : Passive code place text) :
    outline (Source.lines (Source.insert code place text)) =
      outline ((Source.lines code).map (Line.moved (pushed place))) := by
  have inert : Line.isInert ⟨place + 1, text⟩ = true := by
    rcases passive with blank | ⟨comment, -⟩
    · simp [Line.isInert, Line.isBlank, Line.content, blank]
    · simp [Line.isInert, Line.content, comment]
  have level : Line.isBlank ⟨place + 1, text⟩ = false →
      ∀ next ∈ firstVisible? (((Source.lines code).drop place).map (Line.moved (pushed place))),
        next.indent = Line.indent ⟨place + 1, text⟩ := by
    intro visible next first
    rcases passive with blank | ⟨-, level⟩
    · simp [Line.isBlank, Line.content, blank] at visible
    · rw [firstVisible?, List.find?_map] at first
      obtain ⟨line, found, rfl⟩ := Option.map_eq_some_iff.mp first
      exact level line found
  rw [lines_insert within single, outline_insert inert level, ← List.map_append,
    List.take_append_drop]

/-- Runs of which one has the lines after an added one. -/
private def afterInsertion (place : Nat) : Correspondence where
  number := pushed place
  width := id
  scopes := fun scope other => other = scope
  faults := fun fault other => other = fault
  widens := strictMono_id
  faults_self := fun _ => rfl

private theorem lines_moved [CharacterNames] (limits : Limits) (place : Nat) (line : Line) :
    (afterInsertion place).Lines limits line (line.moved (pushed place)) where
  number := rfl
  blank := rfl
  inert := rfl
  indent := fun _ => rfl
  reading := fun _ => .of_eq (fun _ _ => Iff.rfl) _

private theorem steps_moved {step other : Step} (steps : (afterInsertion place).Steps step other) :
    other = step.moved (pushed place) := by
  have event := steps.event.eq fun _ _ => id
  obtain ⟨number, _, scope⟩ := other
  obtain ⟨rfl, -, rfl⟩ := steps
  subst event
  rfl

/-- The run of a program with a line added that does nothing is that of the program, with the
    lines after the added one numbered on. -/
theorem run_inserted [CharacterNames] (within : place ≤ (Source.lines code).length)
    (single : '\n' ∉ text) (passive : Passive code place text) :
    run limits (Source.insert code place text) scope 0 answer =
      (run limits code scope 0 answer).map (Response.mapSteps (Step.moved (pushed place))) := by
  have all : List.Forall₂ ((afterInsertion place).Lines limits) (Source.lines code)
      ((Source.lines code).map (Line.moved (pushed place))) :=
    List.forall₂_map_right_iff.mpr (List.forall₂_same.mpr fun line _ => lines_moved limits place line)
  have results := @Correspondence.run_corresponds (afterInsertion place) limits _ code
    (Source.insert code place text) scope scope 0 answer _ all
    (outline_lines_insert within single passive) rfl
  exact results.eq_map (fun _ _ => id) fun _ _ => steps_moved

/-- Adding a line that does nothing changes a run in its line numbers only: those of the lines
    after the added one are greater by one. -/
theorem run_insert [CharacterNames] {response : Response}
    (within : place ≤ (Source.lines code).length)
    (single : '\n' ∉ text) (passive : Passive code place text)
    (returns : run limits code scope 0 answer = .ok response) :
    ∃ longer, run limits (Source.insert code place text) scope 0 answer = .ok longer ∧
      longer.status = response.status ∧ longer.error = response.error ∧
        longer.outputs = response.outputs ∧
          longer.trace = response.trace.map (Step.moved (pushed place)) := by
  refine ⟨response.mapSteps (Step.moved (pushed place)), ?_,
    Response.status_mapSteps fun _ => rfl, rfl, Response.outputs_mapSteps fun _ => rfl, rfl⟩
  rw [run_inserted within single passive, returns]
  rfl

section
attribute [local instance] CharacterNames.unnamed

/-- A comment before the body of an inner loop. -/
theorem run_insert_inner_comment :
    ∃ longer, run ⟨20, 5⟩
        (Source.insert "for i in range(1):\n  for j in range(i):\n\n    y = j\nprint(i)".toList 2
          "    # '".toList) [] 0 none = .ok longer ∧
      longer.status = .completed ∧ longer.error = none ∧ longer.outputs = ["0"] ∧
        longer.trace = [⟨1, .looping 1, []⟩, ⟨1, .iteration "i" 0, [("i", .int 0)]⟩,
          ⟨2, .looping 0, [("i", .int 0)]⟩, ⟨6, .printed "0", [("i", .int 0)]⟩] :=
  @run_insert ⟨20, 5⟩ "for i in range(1):\n  for j in range(i):\n\n    y = j\nprint(i)".toList
    "    # '".toList [] none 2 _
    ⟨[⟨1, .looping 1, []⟩, ⟨1, .iteration "i" 0, [("i", .int 0)]⟩, ⟨2, .looping 0, [("i", .int 0)]⟩,
      ⟨5, .printed "0", [("i", .int 0)]⟩], none⟩
    (by decide +kernel) (by decide) (.inr (by decide +kernel)) (by decide +kernel)

end

end StepTrace
