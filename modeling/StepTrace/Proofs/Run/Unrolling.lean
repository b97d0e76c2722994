import Mathlib
import StepTrace.Proofs.Assignment
import StepTrace.Proofs.Run.Mirror
import StepTrace.Proofs.Run.Pause
import StepTrace.Proofs.Source

/-!
# Unrolled loops

A loop runs like the lines that it stands for: for each of its times the assignment of its
variable and a copy of its body. Whatever the body does, the number of times is the one that
was found when the loop began.
-/

namespace StepTrace

open Machine (scopeAfter entered item_of_full item_of_room run_eq_ok_iff)

/-- A loop that is unrolled: its header and variable, the lines of its body, and how many times
    it runs. -/
structure Unrolling where
  header : Line
  var : String
  body : List Line
  count : Nat

namespace Unrolling

/-- The number of lines that stand for one time of the loop. -/
def width (u : Unrolling) : Nat := u.body.length + 1

/-- The line that sets the variable of the loop, indented like the header. -/
def setting (u : Unrolling) (index : Nat) : List Char :=
  settingText (u.header.text.takeWhile Text.isBlank) u.var (Nat.toDigits 10 index)

/-- So many copies of the body, each behind the setting of the variable, from an index on. -/
def copies (u : Unrolling) : Nat → Nat → List (List Char)
  | 0, _ => []
  | times + 1, index =>
    u.setting index :: (u.body.map Line.text ++ u.copies times (index + 1))

/-- The program in which the lines that stand for the loop are in its place. -/
def program (u : Unrolling) (pre post : List Line) : List Char :=
  Text.join ['\n'] (pre.map Line.text ++ (u.copies u.count 0 ++ post.map Line.text))

/-- Where a line of the loop stands in a copy, and a line after the loop behind all of them. -/
def place (u : Unrolling) (copy number : Nat) : Nat :=
  if number ≤ u.header.number + u.body.length then number + copy * u.width
  else number + u.count * u.width - u.width

/-- The steps of the copies for those of the loop, and of what follows: the setting of the
    variable for each time of the loop, and every other step at the line where it stands. -/
def trace (u : Unrolling) : Nat → List Step → List Step
  | _, [] => []
  | copy, step :: rest =>
    match step.event with
    | .iteration var index =>
      if step.line = u.header.number then
        ⟨u.place index step.line, .assigned var (shownInt index), step.scope⟩ :: u.trace index rest
      else step.moved (u.place copy) :: u.trace copy rest
    | _ => step.moved (u.place copy) :: u.trace copy rest

variable (u : Unrolling)

theorem length_trace (copy : Nat) (steps : List Step) : (u.trace copy steps).length = steps.length := by
  induction steps generalizing copy with
  | nil => rfl
  | cons step rest ih =>
    rw [trace]
    split
    · split <;> simp [ih]
    · simp [ih]

theorem outputs_trace (copy : Nat) (steps : List Step) :
    (u.trace copy steps).filterMap Step.output? = steps.filterMap Step.output? := by
  induction steps generalizing copy with
  | nil => rfl
  | cons step rest ih =>
    have moved : (step.moved (u.place copy)).output? = step.output? := rfl
    rw [trace]
    split
    · next var index event =>
      split
      · simp [List.filterMap_cons, Step.output?, event, ih]
      · simp [List.filterMap_cons, moved, ih]
    · simp [List.filterMap_cons, moved, ih]

/-- Steps of other lines than the header are moved. -/
theorem trace_append {first : List Step} (others : ∀ step ∈ first, step.line ≠ u.header.number)
    (copy : Nat) (second : List Step) :
    u.trace copy (first ++ second) =
      first.map (Step.moved (u.place copy)) ++ u.trace copy second := by
  induction first with
  | nil => rfl
  | cons step rest ih =>
    obtain ⟨here, later⟩ := List.forall_mem_cons.mp others
    rw [List.cons_append, trace]
    split <;> simp [here, ih later]

/-- Each time of the loop begins another copy. -/
theorem trace_iteration (copy index : Nat) (scope : Scope) (rest : List Step) :
    u.trace copy (⟨u.header.number, .iteration u.var index, scope⟩ :: rest) =
      ⟨u.header.number + index * u.width, .assigned u.var (shownInt index), scope⟩ ::
        u.trace index rest := by
  simp [trace, place]

/-! ## The lines of the copies -/

/-- The copies from one on, and the lines after the loop. -/
def rest (post : List Line) (times index : Nat) : List Line :=
  Source.linesFrom (u.header.number + index * u.width) (u.copies times index ++ post.map Line.text)

variable {u} {code : List Char} {pre post : List Line} {index times : Nat}

/-- A program in which the loop stands between other lines. Its header is inside no loop of the
    lines before it, and its block is its body: blank lines after the block may be left out. -/
structure StandsIn [CharacterNames] (u : Unrolling) (code : List Char) (pre post : List Line) :
    Prop where
  whole : Source.lines code = pre ++ u.header :: (u.body ++ post)
  outside : ¬ Inside pre u.header
  within : ∀ line ∈ u.body, Source.continues u.header.indent line = true
  ends : ∀ next ∈ Source.firstVisible? post, Source.continues u.header.indent next = false

theorem reads_setting [CharacterNames] (number : Nat) (named : IsName u.var.toList)
    (short : (Nat.toDigits 10 index).length ≤ Text.digitLimit) :
    Statement.ofLine (Line.content ⟨number, u.setting index⟩) =
      .ok (.assignment u.var ((Expr.literal 1 (.int index)).shifted (u.var.length + 3))) := by
  have blank : ∀ c ∈ u.header.text.takeWhile Text.isBlank, Text.isBlank c = true :=
    fun c member => List.mem_takeWhile_imp member
  obtain ⟨last, ends⟩ := Option.isSome_iff_exists.mp
    (List.getLast?_isSome.mpr (@Nat.toDigits_ne_nil index 10))
  have visible := not_isBlank_of_isNamePart
    (isNamePart_of_mem_toDigits (List.mem_of_getLast? ends))
  rw [setting, content_setting number blank named ends visible]
  exact Statement.ofLine_assignment named (Expr.parse_toDigits short) rfl

theorem continues_setting [CharacterNames] (number : Nat) (named : IsName u.var.toList)
    (short : (Nat.toDigits 10 index).length ≤ Text.digitLimit) :
    Source.continues u.header.indent ⟨number, u.setting index⟩ = false := by
  have blank : ∀ c ∈ u.header.text.takeWhile Text.isBlank, Text.isBlank c = true :=
    fun c member => List.mem_takeWhile_imp member
  have indent : Line.indent ⟨number, u.setting index⟩ = u.header.indent :=
    indent_setting number blank named
  have seen := isBlank_of_active (active_of_reads (reads_setting number named short))
  simp [Source.continues, indent, seen]

/-- Whatever follows is indented no deeper than the header. -/
theorem continues_rest [CharacterNames] (stands : u.StandsIn code pre post)
    (named : IsName u.var.toList)
    (short : ∀ other < index + times, (Nat.toDigits 10 other).length ≤ Text.digitLimit) :
    ∀ next ∈ Source.firstVisible? (u.rest post times index),
      Source.continues u.header.indent next = false := by
  intro next first
  cases times with
  | zero =>
    obtain ⟨line, among, text⟩ := Source.firstVisible?_linesFrom first
    have moved : next = line.moved fun _ => next.number := by rw [Line.moved, ← text]
    rw [moved, Source.continues_moved]
    exact stands.ends line among
  | succ times =>
    have ends : Source.continues u.header.indent
        ⟨u.header.number + index * u.width, u.setting index⟩ = false :=
      continues_setting _ named (short index (by omega))
    have visible := (Bool.or_eq_false_iff.mp ends).1
    rw [rest, copies, List.cons_append, Source.linesFrom, Source.firstVisible?_cons visible,
      Option.mem_some_iff] at first
    rw [← first, ends]

namespace StandsIn

theorem numbered [CharacterNames] (stands : u.StandsIn code pre post) :
    pre = Source.linesFrom 1 (pre.map Line.text) ∧ u.header.number = 1 + pre.length ∧
      u.body = Source.linesFrom (u.header.number + 1) (u.body.map Line.text) ∧
        post = Source.linesFrom (u.header.number + u.width) (post.map Line.text) := by
  have whole := stands.whole
  rw [Source.lines_eq_linesFrom] at whole
  obtain ⟨before, after⟩ := Source.linesFrom_eq_append whole
  rw [List.map_cons, Source.linesFrom, List.cons.injEq] at after
  obtain ⟨header, after⟩ := after
  have number : u.header.number = 1 + pre.length := by rw [header]
  obtain ⟨body, later⟩ := Source.linesFrom_eq_append after.symm
  rw [← number] at body later
  refine ⟨before, number, body, ?_⟩
  rw [later, Source.map_text_linesFrom, width, Nat.add_comm u.body.length, Nat.add_assoc]

theorem ne_header [CharacterNames] (stands : u.StandsIn code pre post) {steps : List Step}
    (inside : ∀ step ∈ steps, ∃ line ∈ u.body, line.number = step.line) :
    ∀ step ∈ steps, step.line ≠ u.header.number := by
  obtain ⟨-, -, numbers, -⟩ := stands.numbered
  intro step member
  obtain ⟨line, among, number⟩ := inside step member
  rw [numbers] at among
  have := Source.le_number_of_mem_linesFrom among
  omega

/-- The last copy is followed by the lines after the loop. -/
theorem rest_zero [CharacterNames] (stands : u.StandsIn code pre post) (copy : Nat) :
    u.rest post 0 u.count = post.map (Line.moved (u.place copy)) := by
  obtain ⟨-, -, -, numbers⟩ := stands.numbered
  rw [rest, copies, List.nil_append]
  conv_rhs => rw [numbers]
  refine (Source.linesFrom_moved fun place _ => ?_).symm
  rw [Unrolling.place, if_neg (by unfold width; omega)]
  omega

/-- One copy is followed by the others. -/
theorem rest_succ [CharacterNames] (stands : u.StandsIn code pre post) (times index : Nat) :
    u.rest post (times + 1) index =
      ⟨u.header.number + index * u.width, u.setting index⟩ ::
        (u.body.map (Line.moved (u.place index)) ++ u.rest post times (index + 1)) := by
  obtain ⟨-, -, numbers, -⟩ := stands.numbered
  have body : u.body.map (Line.moved (u.place index)) =
      Source.linesFrom (u.header.number + index * u.width + 1) (u.body.map Line.text) := by
    conv_lhs => rw [numbers]
    refine Source.linesFrom_moved fun place within => ?_
    rw [List.length_map] at within
    rw [Unrolling.place, if_pos (by omega)]
    omega
  have next : u.header.number + index * u.width + 1 + u.body.length =
      u.header.number + (index + 1) * u.width := by
    rw [Nat.succ_mul, width]
    omega
  rw [rest, copies, List.cons_append, Source.linesFrom, List.append_assoc, Source.linesFrom_append,
    List.length_map, next, body, rest]

end StandsIn

/-- Lines that are indented deeper hold no line that is not. -/
theorem not_inside_of_deeper [CharacterNames] {part : List Line} {indent : Nat} {next : Line}
    (deeper : ∀ line ∈ part, Source.continues indent line = true)
    (shallow : Source.continues indent next = false) : ¬ Inside part next := by
  rintro ⟨outer, header, inner, rfl, ⟨var, count, text, reads⟩, continues⟩
  have seen := isBlank_of_active (active_of_reads reads)
  have below := deeper header (by simp)
  have inside := continues next (by simp)
  simp only [Source.continues, seen, Bool.false_or, Bool.or_eq_false_iff, Bool.or_eq_true,
    decide_eq_true_eq, decide_eq_false_iff_not] at below inside shallow
  rcases inside with blank | deep
  · simp [shallow.1] at blank
  · omega

/-! ## Runs -/

/-- The state after the step of one time of the loop. -/
def timed (u : Unrolling) (index : Nat) (state : State) : State :=
  (state.assign u.var (.int index)).record u.header.number (.iteration u.var index)

/-- The state after the line that stands for it. -/
def settled (u : Unrolling) (index : Nat) (state : State) : State :=
  (state.assign u.var (.int index)).record (u.header.number + index * u.width)
    (.assigned u.var (shownInt index))

section
open Run

variable {limits : Limits} {state other after : State} {ending : Ending}

theorem alike_settled (alike : Alike state other) : Alike (u.timed index state) (u.settled index other) :=
  ⟨congrArg (fun scope : Scope => scope.set u.var (.int index)) alike.scope,
    Nat.sub_le_sub_right alike.room 1⟩

theorem items_setting [CharacterNames] (lines : List Line) (named : IsName u.var.toList)
    (short : (Nat.toDigits 10 index).length ≤ Text.digitLimit) (room : state.remaining ≠ 0) :
    items limits (outline (⟨u.header.number + index * u.width, u.setting index⟩ :: lines)) state =
      items limits (outline lines) (u.settled index state) := by
  have reads := reads_setting (u.header.number + index * u.width) named short
  have written : Json.write? Json.inline (.int index) = some (shownInt index : Text) := by
    rw [Json.write?_int, Text.decimal?_natCast short, Option.map_some, shownInt,
      Text.ofString_ofList]
  have does : effect limits state.scope
      (.assignment u.var ((Expr.literal 1 (.int index)).shifted (u.var.length + 3))) =
        .ok (.assigned u.var (shownInt index), state.scope.set u.var (.int index)) :=
    effect_assignment.mpr ⟨.int index, rfl, shownInt index, written, rfl, rfl⟩
  rw [outline_line _ (active_of_reads reads) (by simp [reads]), items, item_of_room room, reads]
  simp only [perform, does]
  rfl

/-- The copy in which the loop stops is the last one to be run. -/
private theorem items_of_early [CharacterNames] {tail : List Item}
    (stands : u.StandsIn code pre post) (alike : Alike state other)
    (came : items limits (outline u.body) (u.timed index state) = .ok (ending, after))
    (early : ending ≠ .done) (unlimited : ¬ Limited limits ending) (copy : Nat) :
    ∃ new later, Outcome.andThen (items limits (outline (u.body.map (Line.moved (u.place index))))
        (u.settled index other)) (items limits tail) = .ok (ending, later) ∧
      after.steps = new.reverse ++ state.steps ∧
        later.steps = (u.trace copy new).reverse ++ other.steps := by
  obtain ⟨new, later, twin, mirrors⟩ :=
    mirrored_items limits (u.place index) u.body (alike_settled alike) ending after came unlimited
  refine ⟨⟨u.header.number, .iteration u.var index, state.scope.set u.var (.int index)⟩ :: new,
    later, ?_, ?_, ?_⟩
  · rw [twin, andThen_of_early early]
  · simp [mirrors.recorded, timed, State.record, State.assign]
  · have moved := u.trace_append (stands.ne_header mirrors.inside) index []
    rw [List.append_nil, trace, List.append_nil] at moved
    rw [trace_iteration, moved, mirrors.mirrored]
    simp [settled, State.record, State.assign, alike.scope]

/-- The copies from one on are run like the times of the loop from this one on, by induction on
    the times that are left. Where the step limit does not stop the loop it does not stop the
    copies, which record no more. -/
theorem items_rest [CharacterNames] (stands : u.StandsIn code pre post)
    (named : IsName u.var.toList)
    (short : ∀ other < u.count, (Nat.toDigits 10 other).length ≤ Text.digitLimit)
    (counted : index + times = u.count) (alike : Alike state other)
    (came : (iterate limits u.header.number u.var (items limits (outline u.body)) times index
      state).andThen (items limits (outline post)) = .ok (ending, after))
    (unlimited : ¬ Limited limits ending) (copy : Nat) :
    ∃ new later, items limits (outline (u.rest post times index)) other = .ok (ending, later) ∧
      after.steps = new.reverse ++ state.steps ∧
        later.steps = (u.trace copy new).reverse ++ other.steps := by
  obtain ⟨-, -, -, postNumbers⟩ := stands.numbered
  induction times generalizing index state other copy with
  | zero =>
    obtain rfl : index = u.count := counted
    obtain ⟨new, later, twin, mirrors⟩ :=
      mirrored_items limits (u.place copy) post alike ending after came unlimited
    refine ⟨new, later, by rw [stands.rest_zero copy, twin], mirrors.recorded, ?_⟩
    have beyond : ∀ step ∈ new, step.line ≠ u.header.number := by
      intro step member
      obtain ⟨line, among, number⟩ := mirrors.inside step member
      rw [postNumbers] at among
      have := Source.le_number_of_mem_linesFrom among
      unfold width at this
      omega
    have moved := u.trace_append beyond copy []
    rw [List.append_nil, trace, List.append_nil] at moved
    rw [moved, mirrors.mirrored]
  | succ times ih =>
    rw [iterate] at came
    by_cases full : state.remaining = 0
    · rw [if_pos full, refuse_andThen] at came
      exact absurd (limited_of_refuse came) unlimited
    · have room : other.remaining ≠ 0 := by
        have := alike.room
        omega
      have outside : ∀ next ∈ Source.firstVisible? (u.rest post times (index + 1)),
          ¬ Inside (u.body.map (Line.moved (u.place index))) next := by
        intro next first
        refine not_inside_of_deeper ?_
          (continues_rest stands named (fun other before => short other (by omega)) next first)
        intro line member
        obtain ⟨original, among, rfl⟩ := List.mem_map.mp member
        exact stands.within original among
      rw [if_neg full, andThen_assoc] at came
      rw [stands.rest_succ, items_setting _ named (short index (by omega)) room,
        outline_append outside, items_append]
      rcases andThen_eq_ok.mp came with ⟨middle, first, came⟩ | ⟨first, early⟩
      · obtain ⟨new, later, twin, mirrors⟩ := mirrored_items limits (u.place index) u.body
          (alike_settled alike) .done middle first (by simp [Limited])
        obtain ⟨further, last, twinRest, recorded, unrolled⟩ :=
          ih (by omega) mirrors.toAlike came index
        rw [twin]
        refine ⟨⟨u.header.number, .iteration u.var index, state.scope.set u.var (.int index)⟩ ::
          (new ++ further), last, twinRest, ?_, ?_⟩
        · simp [recorded, mirrors.recorded, timed, State.record, State.assign]
        · rw [trace_iteration, u.trace_append (stands.ne_header mirrors.inside), unrolled,
            mirrors.mirrored]
          simp [settled, State.record, State.assign, alike.scope]
      · exact items_of_early stands alike first early unlimited copy

/-- The outline of a program with the loop goes on after the lines before it with the header. -/
theorem StandsIn.outline_header [CharacterNames] (stands : u.StandsIn code pre post) {limit : Expr}
    {text : List Char} (reads : Statement.ofLine u.header.content = .ok (.loop u.var limit text)) :
    outline (u.header :: (u.body ++ post)) =
      .mk u.header.number (.ok (.loop u.var limit text)) (outline u.body) :: outline post := by
  have taken : u.body.takeWhile (Source.continues u.header.indent) = u.body :=
    List.takeWhile_eq_self_iff.mpr stands.within
  have left : Source.afterBlock u.header.indent u.body = [] :=
    List.dropWhile_eq_nil_iff.mpr stands.within
  have outside : ∀ next ∈ Source.firstVisible? post, ¬ Inside (u.header :: u.body) next := by
    intro next first inside
    have shallow := stands.ends next first
    rcases inside_cons_iff.mp inside with ⟨-, continues⟩ | inner
    · rw [continues next (by simp)] at shallow
      cases shallow
    · exact not_inside_of_deeper stands.within shallow inner
  rw [← List.cons_append, outline_append outside, outline_loop _ (active_of_reads reads) reads,
    outline_block, taken, left, outline_nil, List.cons_append, List.nil_append]

/-- The loop begins: its header is recorded, and its times come next. -/
theorem items_header [CharacterNames] {limit : Expr} {text : List Char} {value : Value} {c : Int}
    {tail : List Item} (valued : limit.eval state.scope = .ok value)
    (counts : integer? value = some c) (allowed : c ≤ limits.loop) (times : u.count = c.toNat)
    (came : items limits
      (.mk u.header.number (.ok (.loop u.var limit text)) (outline u.body) :: tail) state =
        .ok (ending, after)) (unlimited : ¬ Limited limits ending) :
    (∀ other < u.count, (Nat.toDigits 10 other).length ≤ Text.digitLimit) ∧
      (iterate limits u.header.number u.var (items limits (outline u.body)) u.count 0
        (state.record u.header.number (.looping u.count))).andThen (items limits tail) =
          .ok (ending, after) := by
  rw [items] at came
  by_cases full : state.remaining = 0
  · rw [item_of_full full, refuse_andThen] at came
    exact absurd (limited_of_refuse came) unlimited
  · rw [item_of_room full] at came
    by_cases long : Uncountable limits c
    · have fails : effect limits state.scope (.loop u.var limit text) =
          .error (.abort .textTooLong) :=
        effect_eq_abort.mpr ⟨rfl, value, c, valued, counts, long⟩
      simp only [perform, fails] at came
      cases came
    · have counted : loopCount limits text value = .ok u.count :=
        times ▸ loopCount_of_integer text counts allowed long
      have does : effect limits state.scope (.loop u.var limit text) =
          .ok (.looping u.count, state.scope) :=
        effect_loop.mpr ⟨value, valued, u.count, counted, rfl, rfl⟩
      simp only [perform, does] at came
      by_cases crowded : 0 < u.count ∧ state.remaining = 1
      · rw [if_pos crowded, refuse_andThen] at came
        exact absurd (limited_of_refuse came) unlimited
      · rw [if_neg crowded] at came
        refine ⟨fun other below => ?_, came⟩
        have shown : (Text.decimal? c).isSome = true :=
          Option.isSome_iff_ne_none.mpr fun tooLong =>
            long (.inr ⟨allowed, by omega, tooLong⟩)
        exact Text.length_toDigits_of_decimal? shown (by omega)

end

/-! ## Programs -/

theorem newline_not_mem_setting (named : IsName u.var.toList) (index : Nat)
    (free : '\n' ∉ u.header.text) : '\n' ∉ u.setting index := by
  refine newline_not_mem_settingText (fun indentation => ?_) named fun digits => ?_
  · exact free ((List.takeWhile_sublist _).subset indentation)
  · cases isNamePart_of_mem_toDigits digits

theorem newline_not_mem_copies [CharacterNames] (stands : u.StandsIn code pre post)
    (named : IsName u.var.toList)
    (times index : Nat) : ∀ text ∈ u.copies times index, '\n' ∉ text := by
  have original : ∀ line ∈ u.header :: u.body, '\n' ∉ line.text := by
    intro line among
    refine @Source.newline_not_mem_text code line ?_
    rw [stands.whole]
    simp only [List.mem_cons, List.mem_append] at among ⊢
    tauto
  induction times generalizing index with
  | zero => simp [copies]
  | succ times ih =>
    intro text member
    rw [copies, List.mem_cons, List.mem_append] at member
    rcases member with rfl | body | later
    · exact newline_not_mem_setting named index (original u.header List.mem_cons_self)
    · obtain ⟨line, among, rfl⟩ := List.mem_map.mp body
      exact original line (List.mem_cons_of_mem _ among)
    · exact ih (index + 1) text later

theorem newline_not_mem_program [CharacterNames] (stands : u.StandsIn code pre post)
    (named : IsName u.var.toList) :
    ∀ text ∈ pre.map Line.text ++ (u.copies u.count 0 ++ post.map Line.text), '\n' ∉ text := by
  have original : ∀ line ∈ pre ++ post, '\n' ∉ line.text := by
    intro line among
    refine @Source.newline_not_mem_text code line ?_
    rw [stands.whole]
    simp only [List.mem_cons, List.mem_append] at among ⊢
    tauto
  intro text member
  simp only [List.mem_append, List.mem_map] at member
  rcases member with ⟨line, among, rfl⟩ | copy | ⟨line, among, rfl⟩
  · exact original line (List.mem_append_left _ among)
  · exact newline_not_mem_copies stands named u.count 0 text copy
  · exact original line (List.mem_append_right _ among)

theorem outline_program [CharacterNames] (stands : u.StandsIn code pre post)
    (named : IsName u.var.toList)
    (short : ∀ other < u.count, (Nat.toDigits 10 other).length ≤ Text.digitLimit) {start : Nat}
    (early : start ≤ pre.length) :
    outline ((Source.lines (u.program pre post)).drop start) =
      outline (pre.drop start) ++ outline (u.rest post u.count 0) := by
  obtain ⟨before, number, -, -⟩ := stands.numbered
  have outside : ∀ next ∈ Source.firstVisible? (u.rest post u.count 0),
      ¬ Inside (pre.drop start) next := by
    intro next first inside
    have shallow := continues_rest stands named (by simpa using short) next first
    simp only [Source.continues, Bool.or_eq_false_iff, decide_eq_false_iff_not] at shallow
    have around := inside.of_shallower shallow.1 (Nat.not_lt.mp shallow.2)
    have whole := around.append_left (pre.take start)
    rw [List.take_append_drop] at whole
    exact stands.outside whole
  rw [program, Source.outline_lines_join (newline_not_mem_program stands named) (by simp; omega),
    Source.linesFrom_append, ← before, List.drop_append_of_le_length early, List.length_map, ← number,
    ← outline_append outside, rest, Nat.zero_mul, Nat.add_zero]

section
open Run

variable {limits : Limits} {scope : Scope} {start : Int} {answer : Option Answer}
  {first response : Response}

/-- The lines before the loop, where they are a program that is completed. -/
theorem items_before [CharacterNames] (stands : u.StandsIn code pre post)
    (early : start ≤ pre.length)
    (before : run limits (Text.join ['\n'] (pre.map Line.text)) scope start answer = .ok first)
    (completed : first.status = .completed) :
    ∃ middle, items limits (outline (pre.drop start.toNat))
        (entryState limits (entered scope answer)) = .ok (.done, middle) ∧
      middle.steps = first.trace.reverse ∧
        middle.scope = scopeAfter (entered scope answer) first.trace := by
  obtain ⟨numbers, -, -, -⟩ := stands.numbered
  have free : ∀ text ∈ pre.map Line.text, '\n' ∉ text := by
    intro text member
    obtain ⟨line, among, rfl⟩ := List.mem_map.mp member
    refine @Source.newline_not_mem_text code line ?_
    rw [stands.whole]
    exact List.mem_append_left _ among
  obtain ⟨-, -, ending, middle, came, rfl⟩ := run_eq_ok_iff.mp before
  have done : ending = .done := by
    rw [respond_status came] at completed
    cases ending with
    | done => rfl
    | paused | failed => cases completed
  subst done
  rw [Source.outline_lines_join free (by simp; omega), ← numbers] at came
  have alike : Alike (entryState limits (entered scope answer))
      (entryState limits (entered scope answer)) := ⟨rfl, Nat.le_refl _⟩
  obtain ⟨new, _, -, mirrors⟩ :=
    mirrored_items limits id (pre.drop start.toNat) alike .done middle came (by simp [Limited])
  have recorded : middle.steps = new.reverse := by simp [mirrors.recorded, entryState]
  have trace : (respond .done middle).trace = new := by simp [respond, recorded]
  exact ⟨middle, came, by rw [recorded, trace], by rw [trace]; exact mirrors.linked⟩

/-- A loop can be unrolled. Its header is inside no loop of the lines before it, these lines
    are completed as a program, and its count has an integer value within the limit. Where the
    step limit does not stop the program, the program with the settings of the variable and the
    copies of the body in place of the loop ends in the same way, with the same output. It records
    the same steps before the loop; the step of the header is dropped, and every step after it
    has one at the place of its line in the copies, the setting of the variable where the loop
    records another time. -/
theorem run_unrolled [CharacterNames] {limit : Expr} {text : List Char} {value : Value} {c : Int}
    (stands : u.StandsIn code pre post) (early : start ≤ pre.length)
    (reads : Statement.ofLine u.header.content = .ok (.loop u.var limit text))
    (before : run limits (Text.join ['\n'] (pre.map Line.text)) scope start answer = .ok first)
    (completed : first.status = .completed)
    (valued : limit.eval (scopeAfter (entered scope answer) first.trace) = .ok value)
    (counts : integer? value = some c) (allowed : c ≤ limits.loop) (times : u.count = c.toNat)
    (returns : run limits code scope start answer = .ok response)
    (unlimited : response.error ≠ some (Fault.bare (.tooManySteps limits.steps))) :
    ∃ after unrolled,
      response.trace = first.trace ++ ⟨u.header.number, .looping u.count,
        scopeAfter (entered scope answer) first.trace⟩ :: after ∧
      run limits (u.program pre post) scope start answer = .ok unrolled ∧
      unrolled.trace = first.trace ++ u.trace 0 after ∧
      unrolled.trace.length + 1 = response.trace.length ∧
      unrolled.error = response.error ∧ unrolled.status = response.status ∧
      unrolled.outputs = response.outputs := by
  obtain ⟨forward, named, ending, final, came, rfl⟩ := run_eq_ok_iff.mp returns
  have free : ¬ Limited limits ending := by
    rintro rfl
    exact unlimited rfl
  have isName : IsName u.var.toList := Statement.ofLine_isName reads rfl
  obtain ⟨middle, cameBefore, steps, linked⟩ := items_before stands early before completed
  have place : start.toNat ≤ pre.length := by omega
  have outside : ¬ Inside (pre.drop start.toNat) u.header := by
    intro inside
    have whole := inside.append_left (pre.take start.toNat)
    rw [List.take_append_drop] at whole
    exact stands.outside whole
  have status := respond_status came
  have seen := isBlank_of_active (active_of_reads reads)
  rw [stands.whole, List.drop_append_of_le_length place,
    outline_append (by simpa [Source.firstVisible?_cons seen] using outside),
    items_append, cameBefore, stands.outline_header reads] at came
  rw [← linked] at valued
  obtain ⟨short, came⟩ := items_header valued counts allowed times came free
  have alike : Alike (middle.record u.header.number (.looping u.count)) middle :=
    ⟨rfl, Nat.sub_le ..⟩
  obtain ⟨new, later, twin, recorded, unrolled⟩ :=
    items_rest stands isName short (Nat.zero_add _) alike came free 0
  have cameUnrolled : items limits (outline ((Source.lines (u.program pre post)).drop start.toNat))
      (entryState limits (entered scope answer)) = .ok (ending, later) := by
    rw [outline_program stands isName short place, items_append, cameBefore]
    exact twin
  have trace : (respond ending final).trace = first.trace ++ ⟨u.header.number, .looping u.count,
      scopeAfter (entered scope answer) first.trace⟩ :: new := by
    simp [respond, recorded, State.record, steps, linked]
  have traceUnrolled : (respond ending later).trace = first.trace ++ u.trace 0 new := by
    simp [respond, unrolled, steps]
  refine ⟨new, respond ending later, trace,
    run_eq_ok_iff.mpr ⟨forward, named, ending, later, cameUnrolled, rfl⟩, traceUnrolled, ?_, ?_, ?_, ?_⟩
  · rw [trace, traceUnrolled, List.length_append, List.length_append, length_trace,
      List.length_cons, Nat.add_assoc]
  · cases ending <;> rfl
  · rw [respond_status cameUnrolled, status]
  · rw [Response.outputs, Response.outputs, trace, traceUnrolled, List.filterMap_append,
      List.filterMap_append, outputs_trace]
    rfl

end

section
attribute [local instance] CharacterNames.unnamed

/-- A loop whose body changes what its count was computed from. -/
theorem run_unrolled_growing_count :
    ∃ unrolled, run Limits.standard
        "n = 2\ni = 0\n  n = n + i\ni = 1\n  n = n + i\nprint(n)".toList [] 0 none = .ok unrolled ∧
      unrolled.trace.length = 6 ∧ unrolled.status = .completed ∧ unrolled.outputs = ["3"] := by
  have stands : StandsIn ⟨⟨2, "for i in range(n):".toList⟩, "i", [⟨3, "  n = n + i".toList⟩], 2⟩
      "n = 2\nfor i in range(n):\n  n = n + i\nprint(n)".toList [⟨1, "n = 2".toList⟩]
      [⟨4, "print(n)".toList⟩] :=
    ⟨by decide +kernel, by decide +kernel, by decide +kernel, by decide +kernel⟩
  have reads : Statement.ofLine (Line.content ⟨2, "for i in range(n):".toList⟩) =
      .ok (.loop "i" (.name 16 "n") "n".toList) := by cbv
  have before : run Limits.standard (Text.join ['\n'] ["n = 2".toList]) [] 0 none =
      .ok ⟨[⟨1, .assigned "n" "2", [("n", .int 2)]⟩], none⟩ := by decide +kernel
  have returns : run Limits.standard "n = 2\nfor i in range(n):\n  n = n + i\nprint(n)".toList [] 0
      none = .ok ⟨[⟨1, .assigned "n" "2", [("n", .int 2)]⟩, ⟨2, .looping 2, [("n", .int 2)]⟩,
        ⟨2, .iteration "i" 0, [("n", .int 2), ("i", .int 0)]⟩,
        ⟨3, .assigned "n" "2", [("n", .int 2), ("i", .int 0)]⟩,
        ⟨2, .iteration "i" 1, [("n", .int 2), ("i", .int 1)]⟩,
        ⟨3, .assigned "n" "3", [("n", .int 3), ("i", .int 1)]⟩,
        ⟨4, .printed "3", [("n", .int 3), ("i", .int 1)]⟩], none⟩ := by decide +kernel
  obtain ⟨after, unrolled, -, came, -, length, -, status, outputs⟩ :=
    run_unrolled stands (by decide) reads before rfl rfl rfl (by decide) rfl returns (by simp)
  have text : program ⟨⟨2, "for i in range(n):".toList⟩, "i", [⟨3, "  n = n + i".toList⟩], 2⟩
      [⟨1, "n = 2".toList⟩] [⟨4, "print(n)".toList⟩] =
        "n = 2\ni = 0\n  n = n + i\ni = 1\n  n = n + i\nprint(n)".toList := by decide +kernel
  rw [text] at came
  exact ⟨unrolled, came, Nat.succ.inj length, status, outputs⟩

end

end Unrolling

end StepTrace
