import Mathlib.Data.List.Basic
import StepTrace.Proofs.Machine.Invariant
import StepTrace.Proofs.Outline.Parts

/-!
# Runs in other places

A run that the step limit does not stop depends on nothing but its lines and the variables
that it begins with. After other steps, with more room, and over lines with other numbers, it
records the same steps and comes to the same end (`mirrored_items`).
-/

namespace StepTrace

open Machine (scopeAfter item_of_full item_of_room)

/-- A step of a line with another number. -/
def Step.moved (move : Nat → Nat) (step : Step) : Step := { step with line := move step.line }

theorem Step.map_moved_id (steps : List Step) : steps.map (Step.moved id) = steps := List.map_id steps

theorem scopeAfter_append (before : Scope) (first second : List Step) :
    scopeAfter before (first ++ second) = scopeAfter (scopeAfter before first) second := by
  rcases List.eq_nil_or_concat second with rfl | ⟨earlier, last, rfl⟩
  · simp
  · rw [List.concat_eq_append, ← List.append_assoc, Machine.scopeAfter_concat,
      Machine.scopeAfter_concat]

theorem scopeAfter_cons (before : Scope) (step : Step) (rest : List Step) :
    scopeAfter before (step :: rest) = scopeAfter step.scope rest :=
  scopeAfter_append before [step] rest

namespace Run

variable {limits : Limits} {move : Nat → Nat} {lines more : List Line} {line : Line}
  {state other after later final last : State} {new next : List Step} {outcome twin : Outcome}

/-- The step limit has ended a run. -/
def Limited (limits : Limits) (ending : Ending) : Prop :=
  ending = .failed (Fault.bare (.tooManySteps limits.steps))

theorem refuse_andThen {number : Nat} {failure : Failure} {next : State → Outcome} :
    (state.refuse number failure).andThen next = state.refuse number failure := by
  cases failure <;> rfl

theorem limited_of_refuse {number : Nat} {ending : Ending}
    (came : state.refuse number (stepLimit limits) = .ok (ending, after)) : Limited limits ending := by
  unfold stepLimit showing at came
  split at came
  · obtain ⟨rfl, -⟩ := Prod.mk.inj (Except.ok.inj came)
    rfl
  · cases came

/-- Two states from which a run records the same steps: the second one has as much room. -/
structure Alike (state other : State) : Prop where
  scope : other.scope = state.scope
  room : state.remaining ≤ other.remaining

/-- From one state some lines have recorded new steps, and from another state the same steps
    with their lines moved. The variables are those of the last step. -/
structure Mirrors (move : Nat → Nat) (lines : List Line) (state other : State) (new : List Step)
    (after later : State) : Prop extends Alike after later where
  recorded : after.steps = new.reverse ++ state.steps
  mirrored : later.steps = (new.map (Step.moved move)).reverse ++ other.steps
  linked : after.scope = scopeAfter state.scope new
  spent : after.remaining ≤ state.remaining
  inside : ∀ step ∈ new, ∃ line ∈ lines, line.number = step.line

/-- Where one outcome is an end that the step limit has no part in, the other one is the same
    end after the same steps. -/
def Mirrored (limits : Limits) (move : Nat → Nat) (lines : List Line) (state other : State)
    (outcome twin : Outcome) : Prop :=
  ∀ ending after, outcome = .ok (ending, after) → ¬ Limited limits ending →
    ∃ new later, twin = .ok (ending, later) ∧ Mirrors move lines state other new after later

namespace Mirrors

theorem refl (alike : Alike state other) : Mirrors move lines state other [] state other where
  toAlike := alike
  recorded := rfl
  mirrored := rfl
  linked := rfl
  spent := Nat.le_refl _
  inside := by simp

theorem trans (first : Mirrors move lines state other new after later)
    (second : Mirrors move lines after later next final last) :
    Mirrors move lines state other (new ++ next) final last where
  toAlike := second.toAlike
  recorded := by simp [second.recorded, first.recorded]
  mirrored := by simp [second.mirrored, first.mirrored]
  linked := by rw [scopeAfter_append, ← first.linked, second.linked]
  spent := Nat.le_trans second.spent first.spent
  inside := by
    intro step member
    rcases List.mem_append.mp member with earlier | recent
    · exact first.inside step earlier
    · exact second.inside step recent

theorem mono (mirrors : Mirrors move lines state other new after later) (subset : lines ⊆ more) :
    Mirrors move more state other new after later :=
  { mirrors with
    inside := fun step member => by
      obtain ⟨line, among, number⟩ := mirrors.inside step member
      exact ⟨line, subset among, number⟩ }

/-- Both states record a step of the same line. -/
theorem record (move : Nat → Nat) (alike : Alike state other) (member : line ∈ lines) (event : Event) (scope : Scope) :
    Mirrors move lines state other [⟨line.number, event, scope⟩]
      (State.record { state with scope } line.number event)
      (State.record { other with scope } (move line.number) event) where
  scope := rfl
  room := Nat.sub_le_sub_right alike.room 1
  recorded := rfl
  mirrored := rfl
  linked := rfl
  spent := Nat.sub_le ..
  inside := by
    intro step same
    obtain rfl := List.mem_singleton.mp same
    exact ⟨line, member, rfl⟩

end Mirrors

namespace Mirrored

theorem of_mirrors {ending : Ending} (mirrors : Mirrors move lines state other new after later) :
    Mirrored limits move lines state other (.ok (ending, after)) (.ok (ending, later)) := by
  rintro found reached ⟨⟩ -
  exact ⟨new, later, rfl, mirrors⟩

theorem prepend (mirrors : Mirrors move lines state other new after later)
    (mirrored : Mirrored limits move lines after later outcome twin) :
    Mirrored limits move lines state other outcome twin := by
  intro ending reached came unlimited
  obtain ⟨next, last, twinCame, rest⟩ := mirrored ending reached came unlimited
  exact ⟨new ++ next, last, twinCame, mirrors.trans rest⟩

theorem mono (mirrored : Mirrored limits move lines state other outcome twin)
    (subset : lines ⊆ more) : Mirrored limits move more state other outcome twin := by
  intro ending reached came unlimited
  obtain ⟨new, last, twinCame, mirrors⟩ := mirrored ending reached came unlimited
  exact ⟨new, last, twinCame, mirrors.mono subset⟩

theorem andThen {rest twinRest : State → Outcome}
    (first : Mirrored limits move lines state other outcome twin)
    (second : ∀ after later, Alike after later →
      Mirrored limits move lines after later (rest after) (twinRest later)) :
    Mirrored limits move lines state other (outcome.andThen rest) (twin.andThen twinRest) := by
  intro ending reached came unlimited
  rcases andThen_eq_ok.mp came with ⟨after, done, beyond⟩ | ⟨here, early⟩
  · obtain ⟨new, later, rfl, mirrors⟩ := first .done after done (by simp [Limited])
    exact (second after later mirrors.toAlike).prepend mirrors ending reached beyond unlimited
  · obtain ⟨new, later, rfl, mirrors⟩ := first ending reached here unlimited
    exact ⟨new, later, andThen_of_early early, mirrors⟩

/-- A refusal by the step limit has no twin. -/
theorem of_stepLimit {number : Nat} :
    Mirrored limits move lines state other (after.refuse number (stepLimit limits)) twin := by
  intro ending reached came unlimited
  exact absurd (limited_of_refuse came) unlimited

/-- A failure is recorded with the variables before it. -/
theorem of_refuse (alike : Alike state other) (member : line ∈ lines) (failure : Failure) :
    Mirrored limits move lines state other (state.refuse line.number failure)
      (other.refuse (move line.number) failure) := by
  cases failure with
  | abort abort => rintro ending reached ⟨⟩
  | fault fault =>
    have mirrors : Mirrors move lines state other [⟨line.number, .failed fault, state.scope⟩]
        { state with steps := ⟨line.number, .failed fault, state.scope⟩ :: state.steps }
        { other with steps := ⟨move line.number, .failed fault, other.scope⟩ :: other.steps } := {
      scope := alike.scope
      room := alike.room
      recorded := rfl
      mirrored := by simp [alike.scope, Step.moved]
      linked := rfl
      spent := Nat.le_refl _
      inside := by
        intro step same
        obtain rfl := List.mem_singleton.mp same
        exact ⟨line, member, rfl⟩ }
    exact of_mirrors mirrors

end Mirrored

/-! ## Statements -/

/-- The times of a loop, where the body mirrors itself. -/
theorem mirrored_iterate {var : String} {body twinBody : State → Outcome} (member : line ∈ lines)
    (bodies : ∀ state other, Alike state other →
      Mirrored limits move lines state other (body state) (twinBody other))
    (times index : Nat) (alike : Alike state other) :
    Mirrored limits move lines state other (iterate limits line.number var body times index state)
      (iterate limits (move line.number) var twinBody times index other) := by
  induction times generalizing index state other with
  | zero => exact .of_mirrors (.refl alike)
  | succ times ih =>
    rw [iterate, iterate]
    by_cases full : state.remaining = 0
    · rw [if_pos full]
      exact .of_stepLimit
    · have twinRoom : other.remaining ≠ 0 := by
        have := alike.room
        omega
      rw [if_neg full, if_neg twinRoom]
      have recorded := Mirrors.record move alike member (.iteration var index)
        (state.scope.set var (.int index))
      have same : ∀ number,
          (other.assign var (.int index)).record number (.iteration var index) =
            State.record { other with scope := state.scope.set var (.int index) } number
              (.iteration var index) := by
        intro number
        simp [State.assign, alike.scope]
      rw [same]
      exact ((bodies _ _ recorded.toAlike).andThen fun after later alike => ih (index + 1) alike).prepend
        recorded

/-- A statement for which there is room. -/
theorem mirrored_perform {body twinBody : State → Outcome} (member : line ∈ lines)
    (bodies : ∀ state other, Alike state other →
      Mirrored limits move lines state other (body state) (twinBody other))
    (statement : Statement) (alike : Alike state other) (room : state.remaining ≠ 0) :
    Mirrored limits move lines state other (perform limits line.number body statement state)
      (perform limits (move line.number) twinBody statement other) := by
  rw [perform, perform, alike.scope]
  cases does : effect limits state.scope statement with
  | error failure => exact .of_refuse alike member failure
  | ok result =>
    obtain ⟨event, scope⟩ := result
    have recorded := Mirrors.record move alike member event scope
    cases statement with
    | question | assignment | print => exact .of_mirrors recorded
    | loop var count text =>
      obtain ⟨-, -, times, -, rfl, -⟩ := effect_loop.mp does
      simp only
      by_cases crowded : 0 < times ∧ state.remaining = 1
      · rw [if_pos crowded]
        exact .of_stepLimit
      · have twinRoom : ¬ (0 < times ∧ other.remaining = 1) := by
          have := alike.room
          omega
        rw [if_neg crowded, if_neg twinRoom]
        exact (mirrored_iterate member bodies times 0 recorded.toAlike).prepend recorded

/-- An item whose body mirrors itself. -/
theorem mirrored_item {body twinBody : List Item} (member : line ∈ lines)
    (bodies : ∀ state other, Alike state other →
      Mirrored limits move lines state other (items limits body state) (items limits twinBody other))
    (reading : Except Failure Statement) (alike : Alike state other) :
    Mirrored limits move lines state other (item limits (.mk line.number reading body) state)
      (item limits (.mk (move line.number) reading twinBody) other) := by
  by_cases full : state.remaining = 0
  · rw [item_of_full full]
    exact .of_stepLimit
  · have twinRoom : other.remaining ≠ 0 := by
      have := alike.room
      omega
    cases reading with
    | error failure =>
      rw [item_of_room full, item_of_room twinRoom]
      exact .of_refuse alike member failure
    | ok statement =>
      rw [item_of_room full, item_of_room twinRoom]
      exact mirrored_perform member bodies statement alike full

/-! ## Lines -/

/-- Lines with other numbers are run in the same way. -/
theorem mirrored_items [CharacterNames] (limits : Limits) (move : Nat → Nat) (lines : List Line)
    (alike : Alike state other) :
    Mirrored limits move lines state other (items limits (outline lines) state)
      (items limits (outline (lines.map (Line.moved move))) other) := by
  induction lines using outline_induction generalizing state other with
  | nil =>
    simp only [List.map_nil, outline_nil, items]
    exact .of_mirrors (.refl alike)
  | inert line rest inert ih =>
    rw [List.map_cons, outline_inert _ inert, @outline_inert _ (line.moved move) _ inert]
    exact (ih alike).mono (List.subset_cons_self ..)
  | loop line rest var count text active reads ihBlock ihAfter =>
    rw [List.map_cons, outline_loop _ active reads,
      @outline_loop _ (line.moved move) _ _ _ _ active reads, Line.moved_indent, Source.block_moved,
      Source.afterBlock_moved, items, items]
    refine (mirrored_item List.mem_cons_self (fun after later alike => ?_) _ alike).andThen
      fun after later alike => ?_
    · exact (ihBlock alike).mono (List.subset_cons_of_subset line Source.block_sublist.subset)
    · exact (ihAfter alike).mono (List.subset_cons_of_subset line Source.afterBlock_sublist.subset)
  | single line rest active single ih =>
    rw [List.map_cons, outline_line _ active single,
      @outline_line _ (line.moved move) _ active single, items, items]
    refine (mirrored_item List.mem_cons_self (fun after later alike => ?_) _ alike).andThen
      fun after later alike => ?_
    · exact .of_mirrors (.refl alike)
    · exact (ih alike).mono (List.subset_cons_self ..)

end Run

end StepTrace
