import Mathlib
import StepTrace.Proofs.Assignment
import StepTrace.Proofs.Conversation.Chain
import StepTrace.Proofs.Run.Mirror
import StepTrace.Proofs.Run.Pause

/-!
# Answers written into a program

A program whose questions stand outside its loops and have plain prompts runs, question by
question, like the program in which every question is an assignment of its answer. The runs
taken as one fail in the same way and record the same steps, the questions in place of the
assignments.
-/

namespace StepTrace

open Machine (scopeAfter numbered_lines run_eq_ok_iff)

/-! ## Expressions without names -/

/-- An expression in which no name and no call of `input` occurs. -/
def Expr.Nameless : Expr → Prop
  | .literal _ _ => True
  | .unary _ _ operand => operand.Nameless
  | .binary _ _ left right => left.Nameless ∧ right.Nameless
  | .name _ _ | .input _ | .prompt _ _ => False

/-- No scope has a part in the value of such an expression. -/
theorem Expr.Nameless.eval_eq {expr : Expr} (nameless : expr.Nameless) (scope other : Scope) :
    expr.eval scope = expr.eval other := by
  induction expr with
  | literal => rfl
  | unary _ _ operand ih => rw [eval, eval, ih nameless]
  | binary _ _ left right ihLeft ihRight =>
    rw [eval, eval, ihLeft nameless.1, ihRight nameless.2]
  | name | input | prompt => exact nameless.elim

theorem Expr.Nameless.shifted {expr : Expr} {distance : Nat} (nameless : expr.Nameless) :
    (expr.shifted distance).Nameless := by
  induction expr with
  | literal => trivial
  | unary _ _ operand ih => exact ih nameless
  | binary _ _ left right ihLeft ihRight => exact ⟨ihLeft nameless.1, ihRight nameless.2⟩
  | name | input | prompt => exact nameless.elim

theorem Expr.Nameless.call? {expr : Expr} (nameless : expr.Nameless) : expr.call? = none := by
  cases expr with
  | literal | unary | binary => rfl
  | name | input | prompt => exact nameless.elim

/-! ## Questions and their answers -/

/-- The text of a prompt that is left out or a string literal. -/
def plainPrompt? : Option Expr → Option Text
  | none => some ""
  | some (.literal _ (.str text)) => some text
  | some _ => none

/-- The variable and the prompt of a line that asks with a plain prompt. -/
def Line.question? [CharacterNames] (line : Line) : Option (String × Text) :=
  match Statement.ofLine line.content with
  | .ok (.question target prompt) => (plainPrompt? prompt).map fun text => (target, text)
  | _ => none

/-- The second line sets the variable that the first one asks for, to the value of an
    answer. -/
structure Answers [CharacterNames] (text : Text) (asking answering : Line) : Prop where
  number : answering.number = asking.number
  indent : answering.indent = asking.indent
  sets : ∃ target prompt value, asking.question? = some (target, prompt) ∧
    Statement.ofLine answering.content = .ok (.assignment target value) ∧
    value.Nameless ∧ value.eval [] = .ok (Answer.value text)

/-- Lines with their questions replaced by answers, one after the other. There may be more
    answers than questions. -/
inductive Answered [CharacterNames] : List Text → List Line → List Line → Prop
  | nil {answers : List Text} : Answered answers [] []
  | keep {answers : List Text} {line : Line} {lines filled : List Line} (silent : ¬ line.Asks)
      (rest : Answered answers lines filled) : Answered answers (line :: lines) (line :: filled)
  | answer {text : Text} {answers : List Text} {asking answering : Line}
      {lines filled : List Line} (here : Answers text asking answering)
      (rest : Answered answers lines filled) :
      Answered (text :: answers) (asking :: lines) (answering :: filled)

variable {limits : Limits} {code : List Char} {lines filled before : List Line} {line : Line}
  {answers : List Text}

theorem argument_of_plain {scope : Scope} {prompt : Option Expr} {text : Text}
    (plain : plainPrompt? prompt = some text) : Run.argument scope prompt = .ok (.str text) := by
  unfold plainPrompt? at plain
  split at plain
  · cases plain
    rfl
  · cases plain
    rfl
  · cases plain

theorem question?_eq_some [CharacterNames] {target : String} {text : Text}
    (asks : line.question? = some (target, text)) :
    ∃ prompt, Statement.ofLine line.content = .ok (.question target prompt) ∧
      plainPrompt? prompt = some text := by
  unfold Line.question? at asks
  split at asks
  · next found prompt reads =>
    obtain ⟨shown, plain, same⟩ := Option.map_eq_some_iff.mp asks
    cases same
    exact ⟨prompt, reads, plain⟩
  · cases asks

theorem question?_eq_none [CharacterNames] (silent : ¬ line.Asks) : line.question? = none := by
  cases asks : line.question? with
  | none => rfl
  | some found =>
    obtain ⟨prompt, reads, -⟩ := question?_eq_some asks
    exact absurd ⟨_, _, reads⟩ silent

theorem identifier_of_question? [CharacterNames] {target : String} {text : Text}
    (asks : line.question? = some (target, text)) :
    Text.isIdentifier target.toList = true := by
  obtain ⟨prompt, reads, -⟩ := question?_eq_some asks
  exact (Statement.ofLine_isName reads rfl).isIdentifier

/-- Any text of an expression without names that has the value of an answer may be assigned in
    place of the question. -/
theorem Answers.of_text [CharacterNames] {asking : Line} {target : String} {prompt text : Text}
    {written : List Char} {expr : Expr} {last : Char}
    (asks : asking.question? = some (target, prompt)) (parsed : Expr.parse written = .ok expr)
    (nameless : expr.Nameless) (valued : expr.eval [] = .ok (Answer.value text))
    (ends : written.getLast? = some last) (visible : Text.isBlank last = false) :
    Answers text asking
      ⟨asking.number, settingText (asking.text.takeWhile Text.isBlank) target written⟩ := by
  have blank : ∀ c ∈ asking.text.takeWhile Text.isBlank, Text.isBlank c = true :=
    fun c member => List.mem_takeWhile_imp member
  obtain ⟨question, reads, -⟩ := question?_eq_some asks
  have named := Statement.ofLine_isName reads rfl
  refine ⟨rfl, indent_setting _ blank named, target, prompt, expr.shifted (target.length + 3), asks,
    ?_, nameless.shifted, Expr.eval_shifted valued⟩
  rw [content_setting _ blank named ends visible]
  exact Statement.ofLine_assignment named parsed nameless.call?

/-- There is no question to answer, or there is a first one. -/
theorem Answered.cases_first [CharacterNames] (answered : Answered answers lines filled) :
    (filled = lines ∧ ∀ line ∈ lines, ¬ line.Asks) ∨
      ∃ before asking answering after written text others,
        lines = before ++ asking :: after ∧ filled = before ++ answering :: written ∧
          answers = text :: others ∧ (∀ line ∈ before, ¬ line.Asks) ∧
            Answers text asking answering ∧ Answered others after written := by
  induction answered with
  | nil => exact .inl ⟨rfl, by simp⟩
  | @keep answers line lines filled silent rest ih =>
    rcases ih with ⟨rfl, none⟩ | ⟨before, asking, answering, after, written, text, others, rfl, rfl,
      rfl, none, here, later⟩
    · exact .inl ⟨rfl, List.forall_mem_cons.mpr ⟨silent, none⟩⟩
    · exact .inr ⟨line :: before, asking, answering, after, written, text, others, rfl, rfl, rfl,
        List.forall_mem_cons.mpr ⟨silent, none⟩, here, later⟩
  | @answer text others asking answering after written here rest _ =>
    exact .inr ⟨[], asking, answering, after, written, text, others, rfl, rfl, rfl, by simp, here,
      rest⟩

/-! ## Steps -/

/-- The step of a line that asks in place of the step of the line with the answer: the question
    is recorded with the variables before the answer. -/
def Step.asking [CharacterNames] (lines : List Line) (before : Scope) (step : Step) : Step :=
  match lines[step.line - 1]?.bind Line.question?, step.event with
  | some (target, prompt), .assigned _ _ => ⟨step.line, .awaiting target prompt, before⟩
  | _, _ => step

/-- The steps of lines that ask in place of those of the lines with the answers, after some
    variables. -/
def withQuestions [CharacterNames] (lines : List Line) : Scope → List Step → List Step
  | _, [] => []
  | before, step :: rest => step.asking lines before :: withQuestions lines step.scope rest

theorem withQuestions_append [CharacterNames] (scope : Scope) (first second : List Step) :
    withQuestions lines scope (first ++ second) =
      withQuestions lines scope first ++ withQuestions lines (scopeAfter scope first) second := by
  induction first generalizing scope with
  | nil => rfl
  | cons step rest ih =>
    rw [List.cons_append, withQuestions, withQuestions, ih, List.cons_append, scopeAfter_cons]

/-- Steps of lines that do not ask stay as they are. -/
theorem withQuestions_eq_self [CharacterNames] {steps : List Step}
    (silent : ∀ step ∈ steps, lines[step.line - 1]?.bind Line.question? = none) (scope : Scope) :
    withQuestions lines scope steps = steps := by
  induction steps generalizing scope with
  | nil => rfl
  | cons step rest ih =>
    obtain ⟨here, later⟩ := List.forall_mem_cons.mp silent
    rw [withQuestions, ih later, Step.asking, here]

/-! ## Runs one after the other -/

namespace Conversation

variable {asks : Bool} {replies : List Reply} {response next : Response}

/-- What a conversation comes to from a response on, with the response itself. -/
def ofRun [CharacterNames] (limits : Limits) (code : List Char) (asks : Bool) (replies : List Reply)
    (response : Response) : Conversation :=
  let later := goOn limits code asks replies response
  { later with exchanges := .ran response :: later.exchanges }

theorem ofRun_of_stopped [CharacterNames] (limits : Limits) (code : List Char) (asks : Bool)
    (replies : List Reply) (stops : response.continuation? = none) :
    (ofRun limits code asks replies response).parting = .settled ∧
      (ofRun limits code asks replies response).response = response := by
  simp [ofRun, goOn_of_stopped asks replies stops, Conversation.response, responses]

theorem ofRun_of_paused [CharacterNames] (asks : Bool) (replies : List Reply) {place : Continuation}
    {reply : Reply} (paused : response.continuation? = some place)
    (returns : run limits code place.scope place.start (some ⟨place.target, reply.text⟩) = .ok next) :
    (ofRun limits code asks (reply :: replies) response).parting =
        (ofRun limits code asks replies next).parting ∧
      (ofRun limits code asks (reply :: replies) response).response =
        ⟨response.trace ++ (ofRun limits code asks replies next).response.trace,
          (ofRun limits code asks replies next).response.error⟩ := by
  have goesOn := goOn_of_resumed asks reply replies paused returns
  refine ⟨by simp [ofRun, goesOn], ?_⟩
  simp only [ofRun, goesOn, Conversation.response, responses_ran, responses_asking,
    List.flatMap_cons, List.getLast?_cons_cons]

end Conversation

/-! ## Parts without questions -/

namespace Run

variable {state after final : State} {ending : Ending}

/-- Lines that ask nothing are run by the conversation as they are run with the answers. -/
theorem part_run [CharacterNames] (silent : ∀ line ∈ before, ¬ line.Asks)
    (room : state.remaining ≤ limits.steps.toNat)
    (came : items limits (outline before) state = .ok (ending, after))
    (unlimited : ¬ Limited limits ending) :
    ∃ new later, items limits (outline before) (entryState limits state.scope) = .ok (ending, later) ∧
      ending ≠ .paused ∧ Mirrors id before state (entryState limits state.scope) new after later := by
  have alike : Alike state (entryState limits state.scope) := ⟨rfl, room⟩
  obtain ⟨new, later, twin, mirrors⟩ := mirrored_items limits id before alike ending after came unlimited
  rw [Line.map_moved_id] at twin
  refine ⟨new, later, twin, ?_, mirrors⟩
  rintro rfl
  obtain ⟨asking, member, asks, -⟩ := items_paused came
  exact silent asking member asks

/-- The line with the answer sets its variable, unless the step limit refuses its step. -/
theorem items_answering [CharacterNames] {text : Text} {asking answering : Line}
    (here : Answers text asking answering)
    (came : items limits (outline (answering :: filled)) state = .ok (ending, final))
    (unlimited : ¬ Limited limits ending) :
    ∃ target prompt shown, asking.question? = some (target, prompt) ∧ state.remaining ≠ 0 ∧
      items limits (outline filled)
        (State.record { state with scope := state.scope.set target (Answer.value text) }
          asking.number (.assigned target shown)) = .ok (ending, final) := by
  obtain ⟨target, prompt, value, asks, reads, nameless, valued⟩ := here.sets
  obtain ⟨shown, written⟩ := Answer.value_shown text
  have does : effect limits state.scope (.assignment target value) =
      .ok (.assigned target shown, state.scope.set target (Answer.value text)) :=
    effect_assignment.mpr ⟨Answer.value text, by rw [nameless.eval_eq _ [], valued], shown, written,
      rfl, rfl⟩
  rw [outline_line _ (active_of_reads reads) (by simp [reads]), items] at came
  by_cases full : state.remaining = 0
  · rw [Machine.item_of_full full, refuse_andThen] at came
    exact absurd (limited_of_refuse came) unlimited
  · refine ⟨target, prompt, shown, asks, full, ?_⟩
    rw [Machine.item_of_room full, reads] at came
    simp only [perform, does, here.number] at came
    exact came

/-- The line with the question pauses. -/
theorem items_asking [CharacterNames] {target : String} {prompt : Text} {asking : Line}
    (asks : asking.question? = some (target, prompt)) (room : state.remaining ≠ 0) :
    items limits (outline (asking :: lines)) state =
      .ok (.paused, state.record asking.number (.awaiting target prompt)) := by
  obtain ⟨expr, reads, plain⟩ := question?_eq_some asks
  have does : effect limits state.scope (.question target expr) =
      .ok (.awaiting target prompt, state.scope) :=
    effect_question.mpr ⟨.str prompt, argument_of_plain plain, prompt, rfl, rfl, rfl⟩
  rw [outline_line _ (active_of_reads reads) (by simp [reads]), items, Machine.item_of_room room,
    reads]
  simp only [perform, does]
  rfl

theorem continuation?_of_stopped {response : Response} (stopped : response.status ≠ .paused) :
    response.continuation? = none := if_neg stopped

theorem continuation?_of_paused (state : State) (number : Nat) (target : String) (prompt : Text) :
    (respond .paused (state.record number (.awaiting target prompt))).continuation? =
      some ⟨state.scope, number, target⟩ := by
  simp [Response.continuation?, Response.status, respond, State.record, Step.asked?]

end Run

/-! ## Conversations -/

namespace Conversation

open Run (Limited)

variable {talks : Bool} {state final : State} {ending : Ending}

/-- The runs of a conversation from a response on are settled, and as one they are what the
    lines with the answers record from one state to another. -/
structure Retells [CharacterNames] (limits : Limits) (code : List Char) (talks : Bool)
    (replies : List Reply)
    (leg : Response) (state : State) (ending : Ending) (final : State) : Prop where
  settled : (ofRun limits code talks replies leg).parting = .settled
  retold : ∃ new, final.steps = new.reverse ++ state.steps ∧
    (ofRun limits code talks replies leg).response =
      ⟨withQuestions (Source.lines code) state.scope new, (Run.respond ending final).error⟩

/-- No step of lines that ask nothing is that of a question. -/
private theorem withQuestions_part [CharacterNames] {new : List Step}
    (subset : before ⊆ Source.lines code) (silent : ∀ line ∈ before, ¬ line.Asks)
    (inside : ∀ step ∈ new, ∃ line ∈ before, line.number = step.line) (scope : Scope) :
    withQuestions (Source.lines code) scope new = new := by
  refine withQuestions_eq_self (fun step member => ?_) scope
  obtain ⟨line, among, number⟩ := inside step member
  obtain ⟨place, here⟩ := List.mem_iff_getElem?.mp (subset among)
  have numbered := numbered_lines code place line here
  rw [← number, numbered, Nat.add_sub_cancel, here, Option.bind_some,
    question?_eq_none (silent line among)]

/-- The lines after a line are those from its number on. -/
private theorem drop_number {front rest : List Line}
    (whole : Source.lines code = front ++ line :: rest) : (Source.lines code).drop line.number = rest := by
  have number : line.number = front.length + 1 :=
    numbered_lines code front.length line (by rw [whole]; simp)
  rw [number, whole, List.drop_append, List.drop_eq_nil_of_le (Nat.le_succ _), Nat.add_sub_cancel_left]
  rfl

/-- The question of a line in place of the assignment of its answer. -/
private theorem asking_of_assigned [CharacterNames] {asking : Line} {target other : String}
    {prompt shown : Text} (member : asking ∈ Source.lines code)
    (asks : asking.question? = some (target, prompt)) (scope after : Scope) :
    Step.asking (Source.lines code) scope ⟨asking.number, .assigned other shown, after⟩ =
      ⟨asking.number, .awaiting target prompt, scope⟩ := by
  obtain ⟨place, here⟩ := List.mem_iff_getElem?.mp member
  have numbered := numbered_lines code place asking here
  simp only [Step.asking, numbered, Nat.add_sub_cancel, here, Option.bind_some, asks]

/-- A run that stops in lines without questions is the last one. -/
private theorem retells_of_mirrors [CharacterNames] {replies : List Reply} {new : List Step}
    {later : State} (subset : before ⊆ Source.lines code) (silent : ∀ line ∈ before, ¬ line.Asks)
    (mirrors : Run.Mirrors id before state (Run.entryState limits state.scope) new final later)
    (stops : (Run.respond ending later).continuation? = none) :
    Retells limits code talks replies (Run.respond ending later) state ending final := by
  obtain ⟨settled, whole⟩ := ofRun_of_stopped limits code talks replies stops
  refine ⟨settled, new, mirrors.recorded, ?_⟩
  have trace : (Run.respond ending later).trace = new := by
    simp [Run.respond, mirrors.mirrored, Step.map_moved_id, Run.entryState]
  rw [whole, withQuestions_part subset silent mirrors.inside, ← trace]
  cases ending <;> rfl

/-- A run that pauses at the first question is followed by the runs from there on. -/
private theorem retells_of_paused [CharacterNames] {replies : List Reply} {reply : Reply}
    {new : List Step} {middle later : State} {asking : Line} {target : String} {prompt shown : Text}
    {next : Response} (subset : before ⊆ Source.lines code) (silent : ∀ line ∈ before, ¬ line.Asks)
    (mirrors : Run.Mirrors id before state (Run.entryState limits state.scope) new middle later)
    (member : asking ∈ Source.lines code) (asks : asking.question? = some (target, prompt))
    (returns : run limits code middle.scope asking.number (some ⟨target, reply.text⟩) = .ok next)
    (retold : Retells limits code talks replies next
      (State.record { middle with scope := middle.scope.set target (Answer.value reply.text) }
        asking.number (.assigned target shown)) ending final) :
    Retells limits code talks (reply :: replies)
      (Run.respond .paused (later.record asking.number (.awaiting target prompt))) state ending
        final := by
  have paused := Run.continuation?_of_paused later asking.number target prompt
  rw [mirrors.scope] at paused
  obtain ⟨parting, whole⟩ := ofRun_of_paused talks replies paused returns
  obtain ⟨rest, recorded, retoldWhole⟩ := retold.retold
  refine ⟨parting.trans retold.settled,
    new ++ ⟨asking.number, .assigned target shown, middle.scope.set target (Answer.value reply.text)⟩ ::
      rest, by simp [recorded, State.record, mirrors.recorded], ?_⟩
  have trace : (Run.respond .paused (later.record asking.number (.awaiting target prompt))).trace =
      new ++ [⟨asking.number, .awaiting target prompt, middle.scope⟩] := by
    simp [Run.respond, State.record, mirrors.mirrored, mirrors.scope, Step.map_moved_id,
      Run.entryState]
  rw [whole, trace, retoldWhole, withQuestions_append,
    withQuestions_part subset silent mirrors.inside, ← mirrors.linked, withQuestions,
    asking_of_assigned member asks, List.append_assoc, List.singleton_append]
  rfl

/-- The runs of a conversation from a line on are those of the program with the answers, by
    induction on the answers: each run but the last one ends at the first question, and the
    next one begins after it with the variables that the answer leaves. -/
private theorem retells [CharacterNames] (talks : Bool) (more : List Reply) (answers : List Text)
    (filled : List Line) (start : Nat) (state : State)
    (answered : Answered answers ((Source.lines code).drop start) filled)
    (outside : ∀ (place : Nat) (asking : Line), (Source.lines code)[place]? = some asking →
      asking.Asks → ¬ Inside ((Source.lines code).take place) asking)
    (room : state.remaining ≤ limits.steps.toNat)
    (came : Run.items limits (outline filled) state = .ok (ending, final))
    (unlimited : ¬ Limited limits ending) :
    ∃ after later, Run.items limits (outline ((Source.lines code).drop start))
        (Run.entryState limits state.scope) = .ok (after, later) ∧
      Retells limits code talks (answers.map (⟨·, false⟩) ++ more) (Run.respond after later) state
        ending final := by
  rcases answered.cases_first with ⟨rfl, silent⟩ |
    ⟨before, asking, answering, after, written, text, others, here, rfl, rfl, silent, answered, later⟩
  · obtain ⟨new, later, twin, notPaused, mirrors⟩ := Run.part_run silent room came unlimited
    refine ⟨ending, later, twin, retells_of_mirrors (List.drop_subset _ _) silent mirrors ?_⟩
    cases ending with
    | done | failed =>
      exact Run.continuation?_of_stopped (by rw [Run.respond_status twin]; nofun)
    | paused => exact absurd rfl notPaused
  · obtain ⟨front, whole⟩ : ∃ front, Source.lines code = (front ++ before) ++ asking :: after :=
      ⟨(Source.lines code).take start, by rw [List.append_assoc, ← here, List.take_append_drop]⟩
    have member : asking ∈ Source.lines code := by
      rw [whole]
      simp
    have subset : before ⊆ Source.lines code := by
      rw [whole]
      exact fun line among => by simp [among]
    obtain ⟨_, _, _, asksPlain, reads, -⟩ := answered.sets
    obtain ⟨prompt, question, -⟩ := question?_eq_some asksPlain
    have notInside : ¬ Inside before asking := by
      intro inside
      have place : (Source.lines code)[(front ++ before).length]? = some asking := by
        rw [whole]
        simp
      refine outside _ asking place ⟨_, _, question⟩ ?_
      rw [whole, List.take_left]
      exact inside.append_left front
    have notInsideAnswer : ¬ Inside before answering := fun inside =>
      notInside (inside.of_shallower (isBlank_of_active (active_of_reads reads)) answered.indent.le)
    have seen := isBlank_of_active (active_of_reads question)
    have seenAnswer := isBlank_of_active (active_of_reads reads)
    rw [outline_append (by simpa [Source.firstVisible?_cons seenAnswer] using notInsideAnswer),
      Run.items_append] at came
    rw [here, outline_append (by simpa [Source.firstVisible?_cons seen] using notInside),
      Run.items_append]
    rcases Run.andThen_eq_ok.mp came with ⟨middle, first, came⟩ | ⟨first, early⟩
    · obtain ⟨new, leg, twin, -, mirrors⟩ := Run.part_run silent room first (by simp [Limited])
      obtain ⟨target, prompt, shown, asks, full, came⟩ := Run.items_answering answered came unlimited
      have legRoom : leg.remaining ≠ 0 := by
        have := mirrors.room
        omega
      have rest : (Source.lines code).drop asking.number = after := drop_number whole
      have left : (State.record { middle with scope := middle.scope.set target (Answer.value text) }
          asking.number (.assigned target shown)).remaining ≤ limits.steps.toNat := by
        have := mirrors.spent
        simp only [State.record]
        omega
      rw [← rest] at later
      obtain ⟨ended, last, nextRun, retold⟩ :=
        retells talks more others written asking.number _ later outside left came unlimited
      rw [twin, Outcome.andThen, Run.items_asking asks legRoom]
      refine ⟨.paused, _, rfl, ?_⟩
      refine retells_of_paused subset silent mirrors member asks ?_ retold
      exact run_eq_ok_iff.mpr ⟨Int.natCast_nonneg _, by simpa using identifier_of_question? asks,
        ended, last, nextRun, rfl⟩
    · obtain ⟨new, leg, twin, notPaused, mirrors⟩ := Run.part_run silent room first unlimited
      refine ⟨ending, leg, by rw [twin, Run.andThen_of_early early],
        retells_of_mirrors subset silent mirrors ?_⟩
      cases ending with
      | done => exact absurd rfl early
      | paused => exact absurd rfl notPaused
      | failed fault =>
        exact Run.continuation?_of_stopped (by simp [Run.respond, Response.status])
termination_by answers.length

/-- A program whose questions stand outside its loops and have plain prompts, and the same
    program with an answer assigned in place of every question. Where the second one runs
    within the step limit, a conversation with these answers has the same fault and the same
    steps, the questions in place of the assignments. -/
theorem hold_answered [CharacterNames] {code filled : List Char} {answers : List Text}
    {typed : Option (List Text)} {response : Response}
    (answered : Answered answers (Source.lines code) (Source.lines filled))
    (outside : ∀ (place : Nat) (asking : Line), (Source.lines code)[place]? = some asking →
      asking.Asks → ¬ Inside ((Source.lines code).take place) asking)
    (returns : run limits filled [] 0 none = .ok response)
    (unlimited : response.error ≠ some (Fault.bare (.tooManySteps limits.steps))) :
    (hold limits code answers typed).parting = .settled ∧
      (hold limits code answers typed).response =
        ⟨withQuestions (Source.lines code) [] response.trace, response.error⟩ := by
  obtain ⟨-, -, ending, final, came, rfl⟩ := run_eq_ok_iff.mp returns
  have free : ¬ Limited limits ending := by
    rintro rfl
    exact unlimited rfl
  obtain ⟨after, later, first, retold⟩ := retells typed.isSome ((typed.getD []).map (⟨·, true⟩))
    answers (Source.lines filled) 0 (Run.entryState limits []) answered outside (Nat.le_refl _) came
    free
  have begins : run limits code [] 0 none = .ok (Run.respond after later) :=
    run_eq_ok_iff.mpr ⟨Int.le_refl 0, by simp, after, later, first, rfl⟩
  have whole : hold limits code answers typed = ofRun limits code typed.isSome
      (answers.map (⟨·, false⟩) ++ (typed.getD []).map (⟨·, true⟩)) (Run.respond after later) := by
    simp only [hold, begins, ofRun]
  obtain ⟨new, recorded, response⟩ := retold.retold
  have trace : (Run.respond ending final).trace = new := by
    simp [Run.respond, recorded, Run.entryState]
  rw [whole, trace]
  exact ⟨retold.settled, response⟩

section
attribute [local instance] CharacterNames.unnamed

/-- A program that asks before a loop and after it. -/
theorem hold_answered_around_loop :
    (hold Limits.standard "n = input('n?')\nfor i in range(n):\n  print(i)\nx = input()".toList
        ["1", "two"] none).response =
      ⟨[⟨1, .awaiting "n" "n?", []⟩, ⟨2, .looping 1, [("n", .int 1)]⟩,
        ⟨2, .iteration "i" 0, [("n", .int 1), ("i", .int 0)]⟩,
        ⟨3, .printed "0", [("n", .int 1), ("i", .int 0)]⟩,
        ⟨4, .awaiting "x" "", [("n", .int 1), ("i", .int 0)]⟩], none⟩ := by
  have asking : Source.lines "n = input('n?')\nfor i in range(n):\n  print(i)\nx = input()".toList =
      [⟨1, "n = input('n?')".toList⟩, ⟨2, "for i in range(n):".toList⟩, ⟨3, "  print(i)".toList⟩,
        ⟨4, "x = input()".toList⟩] := by decide +kernel
  have answering : Source.lines "n = 1\nfor i in range(n):\n  print(i)\nx = 'two'".toList =
      [⟨1, "n = 1".toList⟩, ⟨2, "for i in range(n):".toList⟩, ⟨3, "  print(i)".toList⟩,
        ⟨4, "x = 'two'".toList⟩] := by decide +kernel
  have asksNumber : Line.question? ⟨1, "n = input('n?')".toList⟩ = some ("n", ("n?" : Text)) := by
    decide +kernel
  have asksText : Line.question? ⟨4, "x = input()".toList⟩ = some ("x", ("" : Text)) := by
    decide +kernel
  have one : Expr.parse "1".toList = .ok (.literal 1 (.int 1)) := by cbv
  have two : Expr.parse "'two'".toList = .ok (.literal 1 (.str "two")) := by cbv
  have isOne : (Expr.literal 1 (.int 1)).eval [] = .ok (Answer.value "1") := by decide +kernel
  have isTwo : (Expr.literal 1 (.str "two")).eval [] = .ok (Answer.value "two") := by decide +kernel
  have first : Answers "1" ⟨1, "n = input('n?')".toList⟩ ⟨1, "n = 1".toList⟩ :=
    Answers.of_text asksNumber one trivial isOne rfl rfl
  have second : Answers "two" ⟨4, "x = input()".toList⟩ ⟨4, "x = 'two'".toList⟩ :=
    Answers.of_text asksText two trivial isTwo rfl rfl
  have header : ¬ Line.Asks ⟨2, "for i in range(n):".toList⟩ := by decide +kernel
  have body : ¬ Line.Asks ⟨3, "  print(i)".toList⟩ := by decide +kernel
  have last : Answered [] [] [] := .nil
  have answered := Answered.answer first (.keep header (.keep body (.answer second last)))
  rw [← asking, ← answering] at answered
  have outside : ∀ (place : Nat) (asking : Line),
      (Source.lines "n = input('n?')\nfor i in range(n):\n  print(i)\nx = input()".toList)[place]? =
          some asking → asking.Asks →
        ¬ Inside ((Source.lines
          "n = input('n?')\nfor i in range(n):\n  print(i)\nx = input()".toList).take place) asking := by
    have each : ∀ place < 4, ∀ line ∈ (Source.lines
        "n = input('n?')\nfor i in range(n):\n  print(i)\nx = input()".toList)[place]?, line.Asks →
          ¬ Inside ((Source.lines
            "n = input('n?')\nfor i in range(n):\n  print(i)\nx = input()".toList).take place) line := by
      decide +kernel
    intro place line here
    have within := (List.getElem?_eq_some_iff.mp here).1
    rw [asking] at within
    exact each place within line here
  have returns : run Limits.standard "n = 1\nfor i in range(n):\n  print(i)\nx = 'two'".toList [] 0
      none = .ok ⟨[⟨1, .assigned "n" "1", [("n", .int 1)]⟩, ⟨2, .looping 1, [("n", .int 1)]⟩,
        ⟨2, .iteration "i" 0, [("n", .int 1), ("i", .int 0)]⟩,
        ⟨3, .printed "0", [("n", .int 1), ("i", .int 0)]⟩,
        ⟨4, .assigned "x" "\x22two\x22", [("n", .int 1), ("i", .int 0), ("x", .str "two")]⟩],
        none⟩ := by decide +kernel
  rw [(hold_answered answered outside returns (by simp)).2]
  decide +kernel

end

end Conversation

end StepTrace
