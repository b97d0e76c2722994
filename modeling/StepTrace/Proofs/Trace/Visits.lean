import Mathlib
import StepTrace.Proofs.Outline.Nesting
import StepTrace.Trace

/-!
# Visits

How often a trace comes to each line, and what it takes for a trace to carry out some lines: a
line is visited once, or each time that the innermost loop around it begins. The steps of two
parts make those of both (`CarriesOut.join`), and the times of a loop make those of the loop
(`CarriesOut.header`).
-/

namespace StepTrace

/-! ## Counts -/

/-- The step begins a time of a loop. -/
def Step.isIteration (step : Step) : Bool :=
  match step.event with
  | .iteration _ _ => true
  | _ => false

/-- How many times of a loop a step announces. -/
def Step.announces (step : Step) : Nat :=
  match step.event with
  | .looping count => count
  | _ => 0

/-- The steps of a line. -/
def stepsAt (number : Nat) (trace : List Step) : List Step :=
  trace.filter fun step => step.line == number

/-- How many steps of a line begin no time of a loop. -/
def visits (number : Nat) (trace : List Step) : Nat :=
  (stepsAt number trace).countP fun step => !step.isIteration

/-- How many times the loops of a line have begun. -/
def iterations (number : Nat) (trace : List Step) : Nat :=
  (stepsAt number trace).countP Step.isIteration

/-- How many times the loops of a line were to run. -/
def announced (number : Nat) (trace : List Step) : Nat :=
  ((stepsAt number trace).map Step.announces).sum

variable {number times runs more : Nat} {trace one other inner : List Step} {step : Step}
  {lines part rest : List Line} {line first : Line}

theorem stepsAt_append : stepsAt number (one ++ other) = stepsAt number one ++ stepsAt number other :=
  List.filter_append ..

theorem stepsAt_cons_of_ne (elsewhere : step.line ≠ number) :
    stepsAt number (step :: trace) = stepsAt number trace :=
  List.filter_cons_of_neg (by simpa using elsewhere)

theorem stepsAt_cons_of_eq (here : step.line = number) :
    stepsAt number (step :: trace) = step :: stepsAt number trace :=
  List.filter_cons_of_pos (by simpa using here)

theorem visits_append : visits number (one ++ other) = visits number one + visits number other := by
  simp [visits, stepsAt_append]

theorem iterations_append :
    iterations number (one ++ other) = iterations number one + iterations number other := by
  simp [iterations, stepsAt_append]

theorem announced_append :
    announced number (one ++ other) = announced number one + announced number other := by
  simp [announced, stepsAt_append]

/-! ## What is carried out -/

/-- The steps are those of some lines run so many times, from the first line to the last. -/
structure CarriesOut [CharacterNames] (lines : List Line) (runs : Nat) (trace : List Step) :
    Prop where
  inside : ∀ step ∈ trace, ∃ line ∈ lines, line.isInert = false ∧ step.line = line.number
  visited : ∀ line ∈ lines, line.isInert = false →
    (∀ header, ¬ Governs lines header line) ∧ visits line.number trace = runs ∨
      ∃ header, Innermost lines header line ∧
        visits line.number trace = iterations header.number trace
  begun : ∀ number, iterations number trace = announced number trace

namespace CarriesOut

theorem stepsAt_eq_nil [CharacterNames] (carriesOut : CarriesOut lines runs trace)
    (absent : ∀ line ∈ lines, line.number ≠ number) : stepsAt number trace = [] := by
  refine List.filter_eq_nil_iff.mpr fun step member => ?_
  obtain ⟨line, inside, -, same⟩ := carriesOut.inside step member
  simpa [same] using absent line inside

theorem none [CharacterNames] (lines : List Line) : CarriesOut lines 0 [] where
  inside := by simp
  visited := by
    intro line member active
    by_cases governed : ∃ header, Governs lines header line
    · obtain ⟨header, governs⟩ := governed
      obtain ⟨last, innermost⟩ := governs.innermost
      exact .inr ⟨last, innermost, rfl⟩
    · exact .inl ⟨not_exists.mp governed, rfl⟩
  begun := fun _ => rfl

theorem append [CharacterNames] (carriesOut : CarriesOut lines runs one)
    (again : CarriesOut lines more other) : CarriesOut lines (runs + more) (one ++ other) where
  inside := by
    intro step member
    rcases List.mem_append.mp member with before | later
    · exact carriesOut.inside step before
    · exact again.inside step later
  visited := by
    intro line member active
    rw [visits_append]
    rcases carriesOut.visited line member active with ⟨free, here⟩ | ⟨header, innermost, here⟩
    · rcases again.visited line member active with ⟨-, there⟩ | ⟨around, governs, -⟩
      · exact .inl ⟨free, by rw [here, there]⟩
      · exact absurd governs.1 (free around)
    · rcases again.visited line member active with ⟨free, -⟩ | ⟨last, governs, there⟩
      · exact absurd innermost.1 (free header)
      · have same : last.number = header.number :=
          Nat.le_antisymm (innermost.2 last governs.1) (governs.2 header innermost.1)
        refine .inr ⟨header, innermost, ?_⟩
        rw [iterations_append, here, there, same]
  begun := by
    intro number
    rw [iterations_append, announced_append, carriesOut.begun, again.begun]

/-- What is carried out of a part shows in a longer trace that has the same steps at its lines. -/
theorem visited_of_part [CharacterNames] {front back : List Line} (splits : Splits lines front back)
    (carriesOut : CarriesOut front runs one)
    (same : ∀ line ∈ front, stepsAt line.number trace = stepsAt line.number one) :
    ∀ line ∈ front, line.isInert = false →
      (∀ header, ¬ Governs lines header line) ∧ visits line.number trace = runs ∨
        ∃ header, Innermost lines header line ∧
          visits line.number trace = iterations header.number trace := by
  intro line member active
  rw [visits, same line member, ← visits]
  rcases carriesOut.visited line member active with ⟨free, count⟩ | ⟨header, innermost, count⟩
  · exact .inl ⟨fun header governs => free header ((splits.governs_iff member).mp governs), count⟩
  · refine .inr ⟨header, splits.innermost innermost, ?_⟩
    rw [count, iterations, iterations, same header innermost.1.header_mem]

/-- Two parts run one after the other. -/
theorem join [CharacterNames] {front back : List Line} (splits : Splits lines front back)
    (carriesOut : CarriesOut front runs one) (later : CarriesOut back runs other) :
    CarriesOut lines runs (one ++ other) where
  inside := by
    intro step member
    rcases List.mem_append.mp member with before | after
    · obtain ⟨line, inFront, active, place⟩ := carriesOut.inside step before
      exact ⟨line, (splits.mem line active).mpr (.inl inFront), active, place⟩
    · obtain ⟨line, inBack, active, place⟩ := later.inside step after
      exact ⟨line, (splits.mem line active).mpr (.inr inBack), active, place⟩
  visited := by
    intro line member active
    rcases (splits.mem line active).mp member with inFront | inBack
    · refine carriesOut.visited_of_part splits (fun line member => ?_) line inFront active
      rw [stepsAt_append, later.stepsAt_eq_nil, List.append_nil]
      exact fun other after => (splits.apart line member other after).symm
    · refine later.visited_of_part splits.symm (fun line member => ?_) line inBack active
      rw [stepsAt_append, carriesOut.stepsAt_eq_nil, List.nil_append]
      exact fun other before => splits.apart other before line member
  begun := by
    intro number
    rw [iterations_append, announced_append, carriesOut.begun, later.begun]

theorem inert [CharacterNames] (passive : line.isInert = true) : CarriesOut [line] runs [] where
  inside := by simp
  visited := by
    intro found member active
    obtain rfl := List.mem_singleton.mp member
    rw [passive] at active
    cases active
  begun := fun _ => rfl

end CarriesOut

/-! ## Steps of single lines -/

/-- A step of a line that neither announces nor begins any time of a loop. -/
structure Step.Single (number : Nat) (step : Step) : Prop where
  line : step.line = number
  once : step.isIteration = false
  silent : step.announces = 0

theorem CarriesOut.single [CharacterNames] (active : line.isInert = false) (plain : ¬ line.IsHeader)
    (single : Step.Single line.number step) : CarriesOut [line] 1 [step] where
  inside := by
    intro found member
    obtain rfl := List.mem_singleton.mp member
    exact ⟨line, List.mem_cons_self, active, single.line⟩
  visited := by
    intro found member _
    obtain rfl := List.mem_singleton.mp member
    refine .inl ⟨fun header governs => ?_, ?_⟩
    · exact not_governs_nil ((governs_cons_of_not_isHeader plain).mp governs)
    · simp [visits, stepsAt, single.line, single.once]
  begun := by
    intro number
    by_cases here : step.line = number
    · simp [iterations, announced, stepsAt, here, single.once, single.silent]
    · simp [iterations, announced, stepsAt, here]

/-! ## Steps of loops -/

/-- The steps of all times of a loop: one at its header for each time, and those of its block. -/
structure Repeats [CharacterNames] (number : Nat) (block : List Line) (times : Nat)
    (trace : List Step) : Prop where
  visits : visits number trace = 0
  iterations : iterations number trace = times
  announced : announced number trace = 0
  block : ∃ inner, CarriesOut block times inner ∧
    ∀ other ≠ number, stepsAt other trace = stepsAt other inner

namespace Repeats

theorem none [CharacterNames] (number : Nat) (block : List Line) : Repeats number block 0 [] where
  visits := rfl
  iterations := rfl
  announced := rfl
  block := ⟨[], .none block, fun _ _ => rfl⟩

theorem next [CharacterNames] {var : String} {index : Nat} {scope : Scope}
    (apart : ∀ line ∈ part, line.number ≠ number) (body : CarriesOut part 1 one)
    (later : Repeats number part times other) :
    Repeats number part (times + 1) (⟨number, .iteration var index, scope⟩ :: (one ++ other)) := by
  have here : stepsAt number (⟨number, .iteration var index, scope⟩ :: (one ++ other)) =
      ⟨number, .iteration var index, scope⟩ :: stepsAt number other := by
    refine (stepsAt_cons_of_eq rfl).trans (congrArg (List.cons _) ?_)
    rw [stepsAt_append, body.stepsAt_eq_nil apart, List.nil_append]
  obtain ⟨inner, carriesOut, same⟩ := later.block
  refine ⟨?_, ?_, ?_, one ++ inner, Nat.add_comm 1 times ▸ body.append carriesOut, ?_⟩
  · rw [StepTrace.visits, here]
    exact later.visits
  · rw [StepTrace.iterations, here, List.countP_cons]
    exact congrArg (· + 1) later.iterations
  · rw [StepTrace.announced, here, List.map_cons, List.sum_cons]
    exact (Nat.zero_add _).trans later.announced
  · intro place elsewhere
    rw [stepsAt_cons_of_ne elsewhere.symm, stepsAt_append, stepsAt_append, same place elsewhere]

end Repeats

/-- A loop by itself: its header, and all of its times. -/
theorem CarriesOut.header [CharacterNames] {scope : Scope}
    (ordered : Ordered (first :: Source.block first.indent rest)) (isHeader : first.IsHeader)
    (repeats : Repeats first.number (Source.block first.indent rest) times one) :
    CarriesOut (first :: Source.block first.indent rest) 1
      (⟨first.number, .looping times, scope⟩ :: one) := by
  obtain ⟨before, -⟩ := ordered.cons
  -- The steps at the lines of the block, without those that begin its times at the header.
  obtain ⟨inner, block, same⟩ := repeats.block
  have here : stepsAt first.number (⟨first.number, .looping times, scope⟩ :: one) =
      ⟨first.number, .looping times, scope⟩ :: stepsAt first.number one := stepsAt_cons_of_eq rfl
  have elsewhere : ∀ {number}, number ≠ first.number →
      stepsAt number (⟨first.number, .looping times, scope⟩ :: one) = stepsAt number inner := by
    intro number apart
    rw [stepsAt_cons_of_ne apart.symm, same number apart]
  have within : ∀ line ∈ Source.block first.indent rest,
      stepsAt line.number (⟨first.number, .looping times, scope⟩ :: one) =
        stepsAt line.number inner :=
    fun line inside => elsewhere (Nat.ne_of_gt (before line inside))
  have began : iterations first.number (⟨first.number, .looping times, scope⟩ :: one) = times := by
    rw [iterations, here, List.countP_cons]
    exact repeats.iterations
  refine ⟨?_, ?_, ?_⟩
  · intro step member
    by_cases own : step.line = first.number
    · exact ⟨first, List.mem_cons_self, isHeader.isInert, own⟩
    · have counted : step ∈ stepsAt step.line (⟨first.number, .looping times, scope⟩ :: one) :=
        List.mem_filter.mpr ⟨member, by simp⟩
      rw [elsewhere own] at counted
      obtain ⟨line, inside, active, place⟩ := block.inside step (List.mem_filter.mp counted).1
      exact ⟨line, List.mem_cons_of_mem first inside, active, place⟩
  · intro line member active
    rcases List.mem_cons.mp member with rfl | inside
    · refine .inl ⟨fun header => ordered.not_governs_first, ?_⟩
      rw [visits, here, List.countP_cons]
      exact congrArg (· + 1) repeats.visits
    · refine .inr ?_
      rw [visits, within line inside, ← visits]
      rcases block.visited line inside active with ⟨free, count⟩ | ⟨header, innermost, count⟩
      · exact ⟨first, innermost_first isHeader inside free, count.trans began.symm⟩
      · refine ⟨header, innermost.cons ordered, ?_⟩
        rw [count, iterations, iterations, within header innermost.1.header_mem]
  · intro number
    by_cases own : number = first.number
    · subst own
      rw [began, announced, here, List.map_cons, List.sum_cons]
      exact (congrArg (times + ·) repeats.announced).symm
    · rw [iterations, announced, elsewhere own]
      exact block.begun number

end StepTrace
