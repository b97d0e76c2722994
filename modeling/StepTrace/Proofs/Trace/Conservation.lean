import StepTrace.Proofs.Run.Pause
import StepTrace.Proofs.Trace.Visits

/-!
# No line is lost or repeated

A run that is completed has visited each line that does something: once, or, where the line
stands in loops, each time that the innermost of them has begun. A loop has begun as often as
it was announced. Without loops the lines are visited in their order (`run_carriesOut`).
-/

namespace StepTrace

namespace Run

variable {limits : Limits} {state middle after : State} {number times index : Nat}
  {one other : List Step} {lines block : List Line} {var : String}

/-- The steps that one state has after those of another. -/
def Adds (state : State) (new : List Step) (after : State) : Prop :=
  after.steps = new.reverse ++ state.steps

theorem Adds.trans (earlier : Adds state one middle) (later : Adds middle other after) :
    Adds state (one ++ other) after := by
  unfold Adds at *
  rw [later, earlier, List.reverse_append, List.append_assoc]

/-! ## Items -/

theorem item_done {reading : Except Failure Statement} {body : List Item}
    (single : ∀ var count text, reading ≠ .ok (.loop var count text))
    (done : item limits (.mk number reading body) state = .ok (.done, after)) :
    ∃ step, Adds state [step] after ∧ Step.Single number step := by
  obtain ⟨statement, event, scope, rfl, does, done⟩ := item_goesOn (by simp) done
  simp only [perform, does] at done
  cases leaves_of_effect does with
  | loop => exact absurd rfl (single _ _ _)
  | question => cases done
  | assignment | print =>
    obtain ⟨-, rfl⟩ := Prod.mk.inj (Except.ok.inj done)
    exact ⟨_, rfl, rfl, rfl, rfl⟩

theorem item_loop_done {count : Expr} {text : List Char} {body : List Item}
    (done : item limits (.mk number (.ok (.loop var count text)) body) state = .ok (.done, after)) :
    ∃ times scope entered, Adds state [⟨number, .looping times, scope⟩] entered ∧
      iterate limits number var (items limits body) times 0 entered = .ok (.done, after) := by
  obtain ⟨statement, event, scope, reads, does, done⟩ := item_goesOn (by simp) done
  obtain rfl := Except.ok.inj reads
  obtain ⟨-, -, times, -, rfl, -⟩ := effect_loop.mp does
  simp only [perform, does] at done
  split at done
  · exact absurd done (refuse_ne (by simp))
  · exact ⟨times, scope, State.record { state with scope } number (.looping times), rfl, done⟩

/-- The steps of a loop are those of its times, by induction on how many of them are left. -/
theorem iterate_done [CharacterNames] {body : State → Outcome}
    (apart : ∀ line ∈ block, line.number ≠ number)
    (bodyDone : ∀ {state after}, body state = .ok (.done, after) →
      ∃ new, Adds state new after ∧ CarriesOut block 1 new)
    (done : iterate limits number var body times index state = .ok (.done, after)) :
    ∃ new, Adds state new after ∧ Repeats number block times new := by
  induction times generalizing index state with
  | zero =>
    obtain ⟨-, rfl⟩ := Prod.mk.inj (Except.ok.inj done)
    exact ⟨[], rfl, .none number block⟩
  | succ times ih =>
    rw [iterate] at done
    by_cases full : state.remaining = 0
    · rw [if_pos full] at done
      exact absurd done (refuse_ne (by simp))
    · rw [if_neg full] at done
      rcases andThen_eq_ok.mp done with ⟨middle, here, later⟩ | ⟨-, stopped⟩
      · obtain ⟨once, added, carriesOut⟩ := bodyDone here
        obtain ⟨others, addedLater, repeats⟩ := ih later
        have begun : Adds state [⟨number, .iteration var index, _⟩]
            ((state.assign var (.int index)).record number (.iteration var index)) := rfl
        exact ⟨⟨number, .iteration var index, _⟩ :: (once ++ others),
          begun.trans (added.trans addedLater), repeats.next apart carriesOut⟩
      · exact absurd rfl stopped

/-- Items that are done have carried out their lines, by induction along the outline. -/
theorem items_done [CharacterNames] (ordered : Ordered lines)
    (done : items limits (outline lines) state = .ok (.done, after)) :
    ∃ new, Adds state new after ∧ CarriesOut lines 1 new := by
  induction lines using outline_induction generalizing state after with
  | nil =>
    rw [outline_nil] at done
    obtain ⟨-, rfl⟩ := Prod.mk.inj (Except.ok.inj done)
    exact ⟨[], rfl, by simp, by simp, fun _ => rfl⟩
  | inert line rest inert ih =>
    rw [outline_inert _ inert] at done
    obtain ⟨new, added, carriesOut⟩ := ih ordered.cons.2 done
    have plain : ¬ line.IsHeader := fun isHeader => by simp [isHeader.isInert] at inert
    exact ⟨new, added, (CarriesOut.inert inert).join (splits_line ordered plain) carriesOut⟩
  | single line rest active single ih =>
    rw [outline_line _ active single, items] at done
    rcases andThen_eq_ok.mp done with ⟨middle, here, later⟩ | ⟨-, stopped⟩
    · obtain ⟨step, added, once⟩ := item_done single here
      obtain ⟨new, addedLater, carriesOut⟩ := ih ordered.cons.2 later
      have plain : ¬ line.IsHeader := by
        rintro ⟨var, count, text, reads⟩
        exact single var count text reads
      exact ⟨_, added.trans addedLater,
        (CarriesOut.single active plain once).join (splits_line ordered plain) carriesOut⟩
    · exact absurd rfl stopped
  | loop line rest var count text active reads ihBlock ihAfter =>
    rw [outline_loop _ active reads, items] at done
    rcases andThen_eq_ok.mp done with ⟨middle, here, later⟩ | ⟨-, stopped⟩
    · have isHeader : line.IsHeader := ⟨var, count, text, reads⟩
      have inBlock : Ordered (line :: Source.block line.indent rest) :=
        ordered.sublist (Source.block_sublist.cons_cons line)
      obtain ⟨times, scope, entered, announced, runs⟩ := item_loop_done here
      obtain ⟨inner, added, repeats⟩ := iterate_done
        (fun other inside => Nat.ne_of_gt (inBlock.cons.1 other inside)) (ihBlock inBlock.cons.2) runs
      obtain ⟨new, addedLater, carriesOut⟩ :=
        ihAfter (ordered.cons.2.sublist Source.afterBlock_sublist) later
      exact ⟨_, (announced.trans added).trans addedLater,
        (CarriesOut.header inBlock isHeader repeats).join (splits_loop ordered isHeader) carriesOut⟩
    · exact absurd rfl stopped

/-- Without loops there is one step for each line, in the order of the lines. -/
theorem items_in_order [CharacterNames] (plain : ∀ line ∈ lines, ¬ line.IsHeader)
    (done : items limits (outline lines) state = .ok (.done, after)) :
    ∃ new, Adds state new after ∧
      new.map Step.line = (lines.filter fun line => !line.isInert).map Line.number := by
  induction lines using outline_induction generalizing state after with
  | nil =>
    rw [outline_nil] at done
    obtain ⟨-, rfl⟩ := Prod.mk.inj (Except.ok.inj done)
    exact ⟨[], rfl, rfl⟩
  | inert line rest inert ih =>
    rw [outline_inert _ inert] at done
    rw [List.filter_cons_of_neg (by simp [inert])]
    exact ih (fun other member => plain other (List.mem_cons_of_mem line member)) done
  | single line rest active single ih =>
    rw [outline_line _ active single, items] at done
    rw [List.filter_cons_of_pos (by simp [active])]
    rcases andThen_eq_ok.mp done with ⟨middle, here, later⟩ | ⟨-, stopped⟩
    · obtain ⟨step, added, once⟩ := item_done single here
      obtain ⟨new, addedLater, inOrder⟩ :=
        ih (fun other member => plain other (List.mem_cons_of_mem line member)) later
      refine ⟨_, added.trans addedLater, ?_⟩
      rw [List.map_append, inOrder, List.map_singleton, once.line, List.map_cons,
        List.singleton_append]
    · exact absurd rfl stopped
  | loop line rest var count text active reads =>
    exact absurd ⟨var, count, text, reads⟩ (plain line List.mem_cons_self)

end Run

/-- A completed run has carried out its lines once, those of a loop each time that the loop has
    begun, and without loops in their order. -/
theorem run_carriesOut [CharacterNames] {limits : Limits} {code : List Char} {scope : Scope}
    {start : Int} {answer : Option Answer} {response : Response}
    (returns : run limits code scope start answer = .ok response)
    (completed : response.status = .completed) :
    CarriesOut ((Source.lines code).drop start.toNat) 1 response.trace ∧
      ((∀ line ∈ (Source.lines code).drop start.toNat, ¬ line.IsHeader) →
        response.trace.map Step.line =
          (((Source.lines code).drop start.toNat).filter fun line => !line.isInert).map
            Line.number) := by
  obtain ⟨-, -, ending, state, came, rfl⟩ := Machine.run_eq_ok_iff.mp returns
  rw [Run.respond_status came] at completed
  obtain rfl : ending = .done := by
    cases ending with
    | done => rfl
    | paused | failed => cases completed
  have whole : ∀ {new}, Run.Adds (Run.entryState limits (Machine.entered scope answer)) new state →
      (Run.respond .done state).trace = new := by
    intro new added
    have steps : state.steps = new.reverse ++ [] := added
    simp [Run.respond, steps]
  constructor
  · have ordered := (ordered_lines code).sublist (List.drop_sublist start.toNat _)
    obtain ⟨new, added, carriesOut⟩ := Run.items_done ordered came
    rwa [whole added]
  · intro plain
    obtain ⟨new, added, inOrder⟩ := Run.items_in_order plain came
    rwa [whole added]

section
attribute [local instance] CharacterNames.unnamed

/-- An inner loop with another count each time, and a program without loops. -/
theorem run_carriesOut_changing_count :
    (∃ response,
      run Limits.standard "for i in range(2):\n  for j in range(i):\n    print(j)".toList [] 0 none =
          .ok response ∧
        visits 1 response.trace = 1 ∧ visits 2 response.trace = 2 ∧ visits 3 response.trace = 1 ∧
        iterations 1 response.trace = 2 ∧ iterations 2 response.trace = 1 ∧
        CarriesOut (Source.lines "for i in range(2):\n  for j in range(i):\n    print(j)".toList) 1
          response.trace) ∧
      ∃ response, run Limits.standard "x = 1\n\n# shown\nprint(x)".toList [] 0 none = .ok response ∧
        response.trace.map Step.line = [1, 4] := by
  have nested :
      run Limits.standard "for i in range(2):\n  for j in range(i):\n    print(j)".toList [] 0 none =
        .ok ⟨[⟨1, .looping 2, []⟩, ⟨1, .iteration "i" 0, [("i", .int 0)]⟩,
          ⟨2, .looping 0, [("i", .int 0)]⟩, ⟨1, .iteration "i" 1, [("i", .int 1)]⟩,
          ⟨2, .looping 1, [("i", .int 1)]⟩, ⟨2, .iteration "j" 0, [("i", .int 1), ("j", .int 0)]⟩,
          ⟨3, .printed "0", [("i", .int 1), ("j", .int 0)]⟩], none⟩ := by decide +kernel
  have flat : run Limits.standard "x = 1\n\n# shown\nprint(x)".toList [] 0 none =
      .ok ⟨[⟨1, .assigned "x" "1", [("x", .int 1)]⟩, ⟨4, .printed "1", [("x", .int 1)]⟩], none⟩ := by
    decide +kernel
  refine ⟨⟨_, nested, rfl, rfl, rfl, rfl, rfl, (run_carriesOut nested rfl).1⟩, _, flat, ?_⟩
  rw [(run_carriesOut flat rfl).2 (by decide +kernel)]
  decide +kernel

end

end StepTrace
