import StepTrace.Proofs.Machine.Relocation
import StepTrace.Proofs.Run.Pause
import StepTrace.Proofs.Source

/-!
# Runs one after the other

A run from a line on is the run of the program without the lines before it, wherever this line
stands. A program that is completed and another one after it, which does not begin inside a
loop of the first, run as one program, as long as the step limit allows for both
(`run_composes`).
-/

namespace StepTrace

open Machine (Closes Ends Follows entered entry entryScope_eq_ok ends_run follows_items follows_lines
  numbered_lines place run_eq_map_items run_eq_ok_iff scopeAfter)

variable {limits : Limits} {code first second : List Char} {scope : Scope} {one two : Response}

/-- What comes before the first line of a run has no part in it. -/
private theorem run_dropLines [CharacterNames] (limits : Limits) (code : List Char) (scope : Scope)
    (start : Nat) (answer : Option Answer) :
    run limits code scope start answer =
      (run limits (Source.dropLines code start) scope 0 answer).map
        (Response.relocated start []) := by
  cases enters : Run.entryScope scope answer with
  | error abort =>
    have refused : ∀ (text : List Char) (place : Int), 0 ≤ place →
        run limits text scope place answer = .error abort := by
      intro text place forward
      simp [run, enters, Int.not_lt.mpr forward, bind, Except.bind]
    rw [refused code start (Int.natCast_nonneg start),
      refused (Source.dropLines code start) 0 (Int.le_refl 0)]
    rfl
  | ok before =>
    obtain ⟨named, rfl⟩ := entryScope_eq_ok.mp enters
    have forward : (0 : Int) ≤ start := Int.natCast_nonneg start
    by_cases inside : start < (Text.split '\n' code).length
    · have closes : Closes (Source.lines (Source.dropLines code start)) start (Source.lines code) :=
        Source.drop_lines inside
      have alone :=
        @ends_run scope 0 answer _ limits (Source.dropLines code start) (Int.le_refl 0) named
      have there := alone.relocated closes (.inl rfl)
      have place : (entry 0 (entered scope answer)).relocated start [] =
          entry start (entered scope answer) := by simp [entry, Machine.Config.relocated]
      rw [Int.toNat_zero, place] at there
      exact (ends_run limits code forward named).unique there
    · -- Past the last line nothing is left but one blank line.
      have none : (Source.lines code).drop start = [] := by
        rw [List.drop_eq_nil_iff]
        simpa [Source.lines] using inside
      have blank : Source.dropLines code start = [] := by
        rw [Source.dropLines, List.drop_eq_nil_of_le (Nat.not_lt.mp inside)]
        rfl
      have silent : outline (Source.lines []) = [] := by
        rw [show Source.lines [] = [⟨1, []⟩] from rfl, outline_inert [] rfl, outline_nil]
      rw [run_eq_map_items limits code forward named, run_eq_map_items limits _ (Int.le_refl 0) named,
        blank, Int.toNat_natCast, none, Int.toNat_zero, List.drop_zero, silent, outline_nil]
      rfl

/-- The lines of a program that is completed leave the state in which the next lines begin. -/
private theorem state_of_completed [CharacterNames]
    (returns : run limits first scope 0 none = .ok one) (completed : one.status = .completed) :
    ∃ middle, Run.items limits (outline (Source.lines first)) (Run.entryState limits scope) =
        .ok (.done, middle) ∧ Machine.Fits limits middle ∧ middle.steps.reverse = one.trace ∧
      middle.scope = scopeAfter scope one.trace := by
  obtain ⟨-, -, ending, middle, came, rfl⟩ := run_eq_ok_iff.mp returns
  have done : ending = .done := by
    rw [Run.respond_status came] at completed
    cases ending with
    | done => rfl
    | paused | failed => cases completed
  subst done
  have follows := follows_lines limits first 0 scope
  rw [Int.toNat_zero] at came
  rw [show entered scope none = scope from rfl] at came
  rw [came] at follows
  cases follows with
  | done reaches fits => exact ⟨middle, came, fits, rfl, reaches.sound.linked⟩
  | stopped early => exact absurd rfl early

/-- Lines that begin without indentation begin inside no loop before them. -/
private theorem outside_of_flush [CharacterNames] {part lines : List Line} {move : Nat → Nat}
    (flush : ∀ line ∈ Source.firstVisible? lines, line.indent = 0) :
    ∀ next ∈ Source.firstVisible? (lines.map (Line.moved move)), ¬ Inside part next := by
  intro next isFirst inside
  rw [Source.firstVisible?, List.find?_map] at isFirst
  obtain ⟨line, found, rfl⟩ := Option.map_eq_some_iff.mp isFirst
  have visible : line.isBlank = false := by simpa using List.find?_some found
  obtain ⟨outer, header, inner, -, -, continues⟩ := inside
  have deeper := continues (line.moved move) (by simp)
  simp [Source.continues, visible, flush line found] at deeper

/-- A program that is completed, and then another one. -/
private theorem run_joined [CharacterNames] (returns : run limits first scope 0 none = .ok one)
    (completed : one.status = .completed)
    (flush : ∀ line ∈ Source.firstVisible? (Source.lines second), line.indent = 0)
    (returnsNext : run limits second (scopeAfter scope one.trace) 0 none = .ok two)
    (fits : ((one.trace.length + two.trace.length : Nat) : Int) ≤ limits.steps) :
    run limits (first ++ '\n' :: second) scope 0 none =
      .ok (two.relocated (Source.lines first).length one.trace) := by
  obtain ⟨middle, came, room, steps, linked⟩ := state_of_completed returns completed
  obtain ⟨tail, isTail⟩ : ∃ tail, tail =
      (Source.lines second).map (Line.moved (· + (Source.lines first).length)) := ⟨_, rfl⟩
  have lines : Source.lines (first ++ '\n' :: second) = Source.lines first ++ tail := by
    rw [isTail, Source.lines_append]
  have closes : Closes (Source.lines second) (Source.lines first).length
      (Source.lines (first ++ '\n' :: second)) := by
    rw [Closes, lines, List.drop_left, isTail]
  -- The second program goes on in the state that the first one leaves,
  have whole : run limits (first ++ '\n' :: second) scope 0 none =
      (Run.items limits (outline tail) middle).map fun part => Run.respond part.1 part.2 := by
    rw [run_eq_map_items limits _ (Int.le_refl 0) (by simp), Int.toNat_zero, List.drop_zero, lines,
      outline_append (isTail ▸ outside_of_flush flush), Run.items_append,
      show entered scope none = scope from rfl, came]
    rfl
  -- and from there the machine comes to what it returns.
  have follows := (follows_items (numbered_lines (first ++ '\n' :: second)) tail []
    (Source.lines first).length [] middle (by rw [lines, List.drop_left, List.append_nil])
    (by simp [Machine.Encloses]) (by simp [Machine.Within]) room).ends
      (by rw [List.getElem?_eq_none_iff, lines, List.length_append])
  rw [← whole] at follows
  have alone := (Machine.ends_of_run_eq_ok returnsNext).2.relocated closes (.inr ⟨two, rfl, fits⟩)
  have same : (entry 0 (entered (scopeAfter scope one.trace) none)).relocated
      (Source.lines first).length one.trace = place (Source.lines first).length [] middle := by
    simp [entry, entered, place, Machine.Config.relocated, steps, linked]
  rw [Int.toNat_zero, same] at alone
  exact follows.unique alone

/-- Runs compose. A run from a line on is that of the program without the lines before it, with
    the lines counted from the first one of the whole program. Where a program is completed and
    the lines of another one, of which the first that is not blank has no indentation, follow it,
    both together record what each of them records, the second one from the last variables of
    the first, unless the step limit is too low for both. -/
theorem run_composes [CharacterNames] (limits : Limits) :
    (∀ (code : List Char) (scope : Scope) (start : Nat) (answer : Option Answer),
      run limits code scope start answer =
        (run limits (Source.dropLines code start) scope 0 answer).map fun response =>
          { response with trace := response.trace.map (Step.moved (· + start)) }) ∧
    ∀ (first second : List Char) (scope : Scope) (one two : Response),
      run limits first scope 0 none = .ok one → one.status = .completed →
      (∀ line ∈ Source.firstVisible? (Source.lines second), line.indent = 0) →
      run limits second (scopeAfter scope one.trace) 0 none = .ok two →
      ((one.trace.length + two.trace.length : Nat) : Int) ≤ limits.steps →
      run limits (first ++ '\n' :: second) scope 0 none =
        .ok { two with
          trace := one.trace ++ two.trace.map (Step.moved (· + (Source.lines first).length)) } :=
  ⟨run_dropLines limits, fun _ _ _ _ _ => run_joined⟩

section
attribute [local instance] CharacterNames.unnamed

/-- A run that begins inside the body of a loop, and a loop at the end of a program with lines
    after it, the last of which fails. -/
theorem run_composes_after_loop :
    run ⟨4, 9⟩ "for i in range(2):\n  y = 1\nprint(y)".toList [] 1 none =
        .ok ⟨[⟨2, .assigned "y" "1", [("y", .int 1)]⟩, ⟨3, .printed "1", [("y", .int 1)]⟩], none⟩ ∧
      run ⟨4, 9⟩ "for i in range(1):\n  y = i\n\nprint(z)".toList [] 0 none =
        .ok ⟨[⟨1, .looping 1, []⟩, ⟨1, .iteration "i" 0, [("i", .int 0)]⟩,
          ⟨2, .assigned "y" "0", [("i", .int 0), ("y", .int 0)]⟩,
          ⟨4, .failed (Fault.atColumn (.undefinedName "z") 7), [("i", .int 0), ("y", .int 0)]⟩],
          some (Fault.atColumn (.undefinedName "z") 7)⟩ := by
  have returns : run ⟨4, 9⟩ "for i in range(1):\n  y = i".toList [] 0 none =
      .ok ⟨[⟨1, .looping 1, []⟩, ⟨1, .iteration "i" 0, [("i", .int 0)]⟩,
        ⟨2, .assigned "y" "0", [("i", .int 0), ("y", .int 0)]⟩], none⟩ := by decide +kernel
  have returnsNext : run ⟨4, 9⟩ "\nprint(z)".toList [("i", .int 0), ("y", .int 0)] 0 none =
      .ok ⟨[⟨2, .failed (Fault.atColumn (.undefinedName "z") 7), [("i", .int 0), ("y", .int 0)]⟩],
        some (Fault.atColumn (.undefinedName "z") 7)⟩ := by decide +kernel
  have flush : ∀ line ∈ Source.firstVisible? (Source.lines "\nprint(z)".toList), line.indent = 0 := by
    decide +kernel
  obtain ⟨dropped, joined⟩ := run_composes ⟨4, 9⟩
  refine ⟨?_, joined _ _ _ _ _ returns rfl flush returnsNext (by decide)⟩
  rw [show (1 : Int) = ((1 : Nat) : Int) from rfl, dropped]
  decide +kernel

end

end StepTrace
