import StepTrace.Command
import StepTrace.Proofs.Json.Printer
import StepTrace.Proofs.Service.Protocol
import StepTrace.Proofs.Text.Encode

/-!
# The two modes of the command

A program runs in the same way whether the command shows what it prints or writes its trace. Where
nothing is left to be asked after the answers given in advance, the terminal shows exactly what
the document of the trace says, and both modes have one exit code, as long as every output can be
written (`execute_tells_iff`). At the first output that cannot, because half of a pair stands alone
in it, the terminal stops (`execute_stops`), while the document has an escape for it.
-/

namespace StepTrace

/-! ## Conversations in which nobody is asked -/

namespace Conversation

variable {limits : Limits} {code : List Char} {answers : List Text} {response : Response}

theorem exchanges_goOn_queue [CharacterNames] (limits : Limits) (code : List Char)
    (answers : List Text) (response : Response) :
    (goOn limits code false (queue answers []) response).exchanges =
      (goOn limits code false (queue answers []) response).responses.map .ran := by
  induction answers generalizing response with
  | nil =>
    cases goesOn : response.continuation? with
    | none =>
      rw [goOn_of_stopped _ _ goesOn]
      rfl
    | some place =>
      rw [queue, List.map_nil, List.map_nil, List.append_nil, goOn_nil _ goesOn]
      rfl
  | cons text rest ih =>
    rw [queue_cons]
    cases goesOn : response.continuation? with
    | none =>
      rw [goOn_of_stopped _ _ goesOn]
      rfl
    | some place =>
      cases resumed : run limits code place.scope place.start (some ⟨place.target, text⟩) with
      | error abort =>
        rw [goOn_of_aborted false ⟨text, false⟩ _ goesOn resumed]
        rfl
      | ok next =>
        rw [goOn_of_resumed false ⟨text, false⟩ _ goesOn resumed, responses_asking, responses_ran,
          List.map_cons, ← ih next]
        rfl

/-- Answers that suffice leave nothing to be asked, so it does not matter who could be. By
    induction on the answers. -/
theorem goOn_of_sufficient [CharacterNames] (texts : List Text)
    (comesAbout : ∀ abort,
      (goOn limits code false (queue answers []) response).parting ≠ .aborted abort)
    (suffice : ∀ last,
      (response :: (goOn limits code false (queue answers []) response).responses).getLast? =
        some last → last.continuation? = none) :
    goOn limits code true (queue answers texts) response =
      goOn limits code false (queue answers []) response := by
  induction answers generalizing response with
  | nil =>
    have stopped : response.continuation? = none := by
      apply suffice
      rw [show queue [] [] = [] from rfl, responses_goOn_nil]
      rfl
    rw [goOn_of_stopped _ _ stopped, goOn_of_stopped _ _ stopped]
  | cons text rest ih =>
    rw [queue_cons] at comesAbout suffice
    rw [queue_cons, queue_cons]
    cases goesOn : response.continuation? with
    | none => rw [goOn_of_stopped _ _ goesOn, goOn_of_stopped _ _ goesOn]
    | some place =>
      cases resumed : run limits code place.scope place.start (some ⟨place.target, text⟩) with
      | error abort =>
        rw [goOn_of_aborted false ⟨text, false⟩ _ goesOn resumed] at comesAbout
        exact absurd rfl (comesAbout abort)
      | ok next =>
        rw [goOn_of_resumed false ⟨text, false⟩ _ goesOn resumed] at comesAbout suffice
        rw [responses_asking, responses_ran] at suffice
        have same := ih comesAbout fun last isLast => suffice last isLast
        rw [goOn_of_resumed true ⟨text, false⟩ _ goesOn resumed,
          goOn_of_resumed false ⟨text, false⟩ _ goesOn resumed, same]

theorem exchanges_hold_none [CharacterNames] (limits : Limits) (code : List Char)
    (answers : List Text) :
    (hold limits code answers none).exchanges = (hold limits code answers none).responses.map .ran := by
  cases returned : run limits code [] 0 none with
  | error abort => simp [hold, returned, responses]
  | ok first =>
    rw [hold_of_returned answers none returned, responses_ran, List.map_cons]
    exact congrArg _ (exchanges_goOn_queue limits code answers first)

theorem prompts_hold_none [CharacterNames] (limits : Limits) (code : List Char)
    (answers : List Text) : (hold limits code answers none).prompts = [] := by
  rw [prompts, exchanges_hold_none, List.filterMap_map]
  exact List.filterMap_eq_nil_iff.mpr fun _ _ => rfl

theorem hold_of_sufficient [CharacterNames] (texts : List Text)
    (comesAbout : ∀ abort, (hold limits code answers none).parting ≠ .aborted abort)
    (suffice : ∀ last, (hold limits code answers none).responses.getLast? = some last →
      last.continuation? = none) :
    hold limits code answers (some texts) = hold limits code answers none := by
  cases returned : run limits code [] 0 none with
  | error abort => exact absurd (by simp [hold, returned]) (comesAbout abort)
  | ok first =>
    rw [hold_of_returned answers none returned] at comesAbout suffice
    rw [hold_of_returned answers none returned, hold_of_returned answers (some texts) returned]
    have same := goOn_of_sufficient texts comesAbout suffice
    simp only [Option.isSome_some, Option.isSome_none, Option.getD_some, Option.getD_none, same]

/-- The variables of all steps of a conversation are presentable. -/
theorem presentable_of_chain [CharacterNames] {responses : List Response}
    (presentable : PresentableTrace response.trace)
    (chain : (response :: responses).IsChain (Resumes limits code)) :
    PresentableTrace ((response :: responses).flatMap Response.trace) := by
  induction responses generalizing response with
  | nil => simpa using presentable
  | cons next others ih =>
    obtain ⟨⟨place, text, goesOn, returns⟩, chainRest⟩ := List.isChain_cons_cons.mp chain
    have kept := Service.presentable_continuation presentable goesOn
    rw [List.flatMap_cons]
    exact List.forall_mem_append.mpr
      ⟨presentable, ih (presentableTrace_of_run kept returns) chainRest⟩

/-- The whole trace has presentable variables. -/
theorem presentable_response [CharacterNames]
    (settled : (hold limits code answers none).parting = .settled) :
    PresentableTrace (hold limits code answers none).response.trace := by
  obtain ⟨first, rest, runs, returns, chain⟩ := responses_chain settled
  have presentable : PresentableTrace first.trace :=
    presentableTrace_of_run (by simp [Scope.Presentable]) returns
  rw [response, runs]
  exact presentable_of_chain presentable chain

/-- The steps of a conversation are at lines of the program. -/
theorem line_le_of_settled [CharacterNames]
    (settled : (hold limits code answers none).parting = .settled) :
    ∀ step ∈ (hold limits code answers none).response.trace,
      step.line ≤ (Source.lines code).length := by
  obtain ⟨first, rest, runs, returns, chain⟩ := responses_chain settled
  have returned := returned_of_chain ⟨_, _, _, returns⟩ chain
  intro step member
  rw [response, runs] at member
  obtain ⟨each, isOne, isStep⟩ := List.mem_flatMap.mp member
  obtain ⟨scope, start, answer, returnsEach⟩ := returned each isOne
  exact (run_placed returnsEach step isStep).inside

end Conversation

namespace Command

open Service (field? stepsOf errorOf)

variable {answers : List Text} {limits : Limits} {code : List Char}

/-! ## What a document says -/

/-- The outputs in the document of a trace. -/
def outputsOf (document : Value) : List Text :=
  (stepsOf document).filterMap fun step =>
    match field? step "output" with
    | some (.str output) => some output
    | _ => none

/-- Outputs one after the other, each followed by a line break. -/
def linesOf (outputs : List Text) : Text :=
  ⟨outputs.flatMap fun output => output.points ++ [.char '\n']⟩

/-- What is written of the error in the document of a trace. -/
def failuresOf (document : Value) : Text :=
  match errorOf document with
  | .str error => error ++ ("\n" : Text)
  | _ => ""

/-- The exit code is 1 exactly where there is an error in the document. -/
def codeOf (document : Value) : Nat := if errorOf document = .null then 0 else 1

/-- A terminal shows what the document of a trace says. -/
structure Tells (document : Value) (result : Result) : Prop where
  output : result.output = linesOf (outputsOf document)
  failures : result.failures = failuresOf document
  conclusion : result.conclusion = .exit (codeOf document)

theorem outputsOf_toValue (response : Response) : outputsOf response.toValue = response.outputs := by
  have each : ∀ step : Step, (match field? step.toValue "output" with
      | some (.str output) => some output
      | _ => none) = step.output? := by
    rintro ⟨line, event, scope⟩
    cases event <;> rfl
  rw [outputsOf, Service.stepsOf_toValue, List.filterMap_map, Response.outputs]
  exact congrArg (List.filterMap · _) (funext each)

theorem failuresOf_toValue (response : Response) : failuresOf response.toValue =
    (response.error.elim "" fun fault => fault.describe ++ "\n" : String) := by
  obtain ⟨trace, error⟩ := response
  cases error with
  | none => rfl
  | some fault => exact (Text.ofString_append fault.describe "\n").symm

theorem codeOf_toValue (response : Response) : codeOf response.toValue = exitCode response := by
  obtain ⟨trace, error⟩ := response
  cases error <;> rfl

/-! ## What is written -/

variable {strings : List String} {output : Text} {rest : List Text} {error : Text.EncodeError}

/-- Outputs are those of strings, or one that cannot be written comes after some strings. -/
theorem strings_or_stop (outputs : List Text) :
    (∃ strings : List String, outputs = strings.map Text.ofString) ∨
      ∃ (strings : List String) (output : Text) (rest : List Text) (error : Text.EncodeError),
        outputs = strings.map Text.ofString ++ output :: rest ∧ output.encode = .error error := by
  induction outputs with
  | nil => exact .inl ⟨[], rfl⟩
  | cons first others ih =>
    cases writes : first.encode with
    | error error => exact .inr ⟨[], first, others, error, rfl, writes⟩
    | ok string =>
      obtain rfl := Text.encode_eq_ok_iff.mp writes
      rcases ih with ⟨strings, rfl⟩ | ⟨strings, output, rest, error, rfl, stops⟩
      · exact .inl ⟨string :: strings, rfl⟩
      · exact .inr ⟨string :: strings, output, rest, error, rfl, stops⟩

theorem written_strings (strings : List String) :
    written (strings.map Text.ofString) = (String.join strings, none) := by
  induction strings with
  | nil => rfl
  | cons string others ih =>
    rw [List.map_cons, written, Text.encode_ofString, ih, String.join_cons]

/-- Nothing is written from the first text on that cannot be. -/
theorem written_stop (strings : List String) (rest : List Text)
    (stops : output.encode = .error error) :
    written (strings.map Text.ofString ++ output :: rest) = (String.join strings, some error) := by
  induction strings with
  | nil =>
    rw [List.map_nil, List.nil_append, written, stops]
    rfl
  | cons string others ih =>
    rw [List.map_cons, List.cons_append, written, Text.encode_ofString, ih, String.join_cons]

theorem linesOf_strings (strings : List String) :
    linesOf (strings.map Text.ofString) = String.join (strings.map (· ++ "\n")) := by
  induction strings with
  | nil => rfl
  | cons string others ih =>
    have first : linesOf ((string :: others).map Text.ofString) =
        (string : Text) ++ ("\n" : Text) ++ linesOf (others.map Text.ofString) := rfl
    rw [first, ih, List.map_cons, String.join_cons, Text.ofString_append, Text.ofString_append]

/-- Strings with a line break behind each are the texts of other strings. -/
theorem map_newline_strings (strings : List String) :
    (strings.map Text.ofString).map (· ++ ("\n" : Text)) =
      (strings.map (· ++ "\n")).map Text.ofString := by
  rw [List.map_map, List.map_map]
  exact List.map_congr_left fun string _ => (Text.ofString_append string "\n").symm

/-- What the runs show one after the other is the output of their trace. -/
theorem flatMap_shown (responses : List Response) :
    (responses.map .ran).flatMap shown =
      ((responses.flatMap Response.trace).filterMap Step.output?).map (· ++ ("\n" : Text)) := by
  induction responses with
  | nil => rfl
  | cons response rest ih =>
    rw [List.map_cons, List.flatMap_cons, ih, List.flatMap_cons, List.filterMap_append,
      List.map_append]
    rfl

/-- What is shown of a conversation in which nobody is asked are the outputs in its document. -/
theorem flatMap_shown_hold [CharacterNames] (limits : Limits) (code : List Char)
    (answers : List Text) : (Conversation.hold limits code answers none).exchanges.flatMap shown =
      (outputsOf (Conversation.hold limits code answers none).response.toValue).map
        (· ++ ("\n" : Text)) := by
  rw [outputsOf_toValue, Conversation.exchanges_hold_none]
  exact flatMap_shown _

/-! ## The two modes -/

/-- The terminal stops at an output that cannot be written, with those before it. -/
theorem ofConversation_of_stop [CharacterNames]
    (outputs : outputsOf (Conversation.hold limits code answers none).response.toValue =
      strings.map Text.ofString ++ output :: rest) (stops : output.encode = .error error) :
    ofConversation (Conversation.hold limits code answers none) =
      ⟨String.join (strings.map (· ++ "\n")), "", .stopped (.encoding error)⟩ := by
  have lines : (strings.map Text.ofString ++ output :: rest).map (· ++ ("\n" : Text)) =
      (strings.map (· ++ "\n")).map Text.ofString ++
        (output ++ ("\n" : Text)) :: rest.map (· ++ ("\n" : Text)) := by
    rw [List.map_append, List.map_cons, map_newline_strings]
  simp only [ofConversation, flatMap_shown_hold, outputs, lines,
    written_stop _ _ (Text.encode_append stops "\n")]

section
variable [CharacterNames]
  (settled : (Conversation.hold limits code answers none).parting = .settled)
include settled

/-- Outputs that can be written are shown, all of them. -/
theorem tells_of_strings
    (outputs : outputsOf (Conversation.hold limits code answers none).response.toValue =
      strings.map Text.ofString) :
    Tells (Conversation.hold limits code answers none).response.toValue
      (ofConversation (Conversation.hold limits code answers none)) := by
  simp only [ofConversation, flatMap_shown_hold, outputs, map_newline_strings, written_strings,
    settled]
  exact ⟨by rw [outputs, linesOf_strings], (failuresOf_toValue _).symm,
    congrArg Conclusion.exit (codeOf_toValue _).symm⟩

theorem tells_ofConversation_iff :
    Tells (Conversation.hold limits code answers none).response.toValue
        (ofConversation (Conversation.hold limits code answers none)) ↔
      ∀ output ∈ outputsOf (Conversation.hold limits code answers none).response.toValue,
        output.IsWhole := by
  rcases strings_or_stop
    (outputsOf (Conversation.hold limits code answers none).response.toValue) with
    ⟨strings, outputs⟩ | ⟨strings, output, rest, error, outputs, stops⟩
  · refine iff_of_true (tells_of_strings settled outputs) ?_
    rw [outputs]
    exact List.forall_mem_map.mpr fun string _ => Text.isWhole_ofString string
  · refine iff_of_false (fun tells => ?_) fun whole => ?_
    · have conclusion := tells.conclusion
      rw [ofConversation_of_stop outputs stops] at conclusion
      cases conclusion
    · obtain ⟨string, rfl⟩ := Text.isWhole_iff.mp (whole output (by simp [outputs]))
      rw [Text.encode_ofString] at stops
      cases stops

/-- The document of the trace is written, unless the program has so many lines that their numbers
    are too long. -/
theorem long_of_unwritten
    (unwritten : Json.write? Json.indented
      (Conversation.hold limits code answers none).response.toValue = none) :
    Text.digitLimit < (Nat.toDigits 10 (Source.lines code).length).length := by
  by_contra short
  have counted : (Text.decimal? (Source.lines code).length).isSome = true := by
    rw [Text.decimal?_natCast (Nat.not_lt.mp short)]
    rfl
  have numbered : ∀ step ∈ (Conversation.hold limits code answers none).response.trace,
      (Nat.toDigits 10 step.line).length ≤ Text.digitLimit := fun step member =>
    Text.length_toDigits_of_decimal? counted (Conversation.line_le_of_settled settled step member)
  obtain ⟨text, written⟩ := Json.exists_write? Json.indented
    (Response.presentable_toValue (Conversation.presentable_response settled) numbered)
  rw [unwritten] at written
  cases written

/-- The document is written in ASCII, so nothing keeps it from being shown. -/
theorem traced_of_settled :
    (∃ text : String,
      Json.write? Json.indented (Conversation.hold limits code answers none).response.toValue =
          some (text : Text) ∧
        traced (Conversation.hold limits code answers none) = ⟨text ++ "\n", "",
          .exit (codeOf (Conversation.hold limits code answers none).response.toValue)⟩) ∨
      Text.digitLimit < (Nat.toDigits 10 (Source.lines code).length).length ∧
        traced (Conversation.hold limits code answers none) =
          ⟨"", "", .stopped (.abort .textTooLong)⟩ := by
  cases document :
      Json.write? Json.indented (Conversation.hold limits code answers none).response.toValue with
  | none =>
    exact .inr ⟨long_of_unwritten settled document, by simp only [traced, settled, document]⟩
  | some text =>
    obtain ⟨string, rfl⟩ := Text.isWhole_iff.mp (Json.isWhole_of_write? rfl document)
    have whole : written [(string : Text) ++ ("\n" : Text)] = (string ++ "\n", none) := by
      rw [← Text.ofString_append]
      exact (written_strings [string ++ "\n"]).trans (by simp)
    refine .inl ⟨string, rfl, ?_⟩
    simp only [traced, settled, document, whole, codeOf_toValue]

end

section
variable {read : List Char → Except FileError (List UInt8)} {code : List Char}
  {terminal tracing : List (List Char)} {invocation : Invocation}

/-- Where nothing is left to be asked, a terminal shows the conversation that is traced. -/
private theorem execute_terminal [CharacterNames]
    (plain : invocation? terminal = some { invocation with json := false })
    (found : program read (plainPath (invocation.file.getD [])) = .ok code)
    (comesAbout : ∀ abort,
      (converse { invocation with json := true } code []).parting ≠ .aborted abort)
    (suffice : ∀ last,
      (converse { invocation with json := true } code []).responses.getLast? = some last →
        last.status ≠ .paused) (typed : List Char) :
    (converse { invocation with json := true } code []).parting = .settled ∧
      converse { invocation with json := false } code (Text.typedLines typed) =
        converse { invocation with json := true } code [] ∧
      execute read typed terminal =
        ofConversation (converse { invocation with json := true } code []) := by
  have nobody : Conversation.Replied invocation.limits code
    (invocation.answers.map Text.ofChars) none none := rfl
  have settled : (converse { invocation with json := true } code []).parting = .settled :=
    Conversation.settled_of_replied nobody comesAbout
  have stopped : ∀ last,
      (converse { invocation with json := true } code []).responses.getLast? = some last →
        last.continuation? = none := fun last isLast =>
    Option.not_isSome_iff_eq_none.mp (mt Response.continuation?_isSome.mp (suffice last isLast))
  have same : converse { invocation with json := false } code (Text.typedLines typed) =
      converse { invocation with json := true } code [] :=
    Conversation.hold_of_sufficient _ comesAbout stopped
  refine ⟨settled, same, ?_⟩
  unfold execute
  rw [plain]
  simp only [found]
  rw [same]
  rfl

/-- Two command lines that ask for the same but for the mode run a program in the same way, if no
    run aborts and the last one is not paused where nobody is asked. Whatever could be typed, in a
    terminal nothing is asked, and it shows what the document of the trace says exactly if all
    outputs in it hold nothing but characters; the other mode writes this document, unless the
    numbers of the lines are too long to be written. Both then have the exit code that the
    document tells. -/
theorem execute_tells_iff [CharacterNames]
    (plain : invocation? terminal = some { invocation with json := false })
    (traces : invocation? tracing = some { invocation with json := true })
    (found : program read (plainPath (invocation.file.getD [])) = .ok code)
    (comesAbout : ∀ abort,
      (converse { invocation with json := true } code []).parting ≠ .aborted abort)
    (suffice : ∀ last,
      (converse { invocation with json := true } code []).responses.getLast? = some last →
        last.status ≠ .paused) (typed : List Char) :
    let document := (converse { invocation with json := true } code []).response.toValue
    (converse { invocation with json := false } code (Text.typedLines typed)).prompts = [] ∧
      (Tells document (execute read typed terminal) ↔
        ∀ output ∈ outputsOf document, output.IsWhole) ∧
      ((∃ text : String, Json.write? Json.indented document = some (text : Text) ∧
          execute read typed tracing = ⟨text ++ "\n", "", .exit (codeOf document)⟩) ∨
        Text.digitLimit < (Nat.toDigits 10 (Source.lines code).length).length ∧
          execute read typed tracing = ⟨"", "", .stopped (.abort .textTooLong)⟩) := by
  intro document
  obtain ⟨settled, same, shows⟩ := execute_terminal plain found comesAbout suffice typed
  have traceResult : execute read typed tracing =
      traced (converse { invocation with json := true } code []) := by
    unfold execute
    rw [traces]
    simp only [found]
    rfl
  refine ⟨?_, ?_, ?_⟩
  · rw [same]
    exact Conversation.prompts_hold_none _ _ _
  · rw [shows]
    exact tells_ofConversation_iff settled
  · rw [traceResult]
    exact traced_of_settled settled

/-- At the first output that cannot be written a terminal stops, with the outputs before it. -/
theorem execute_stops [CharacterNames]
    (plain : invocation? terminal = some { invocation with json := false })
    (found : program read (plainPath (invocation.file.getD [])) = .ok code)
    (comesAbout : ∀ abort,
      (converse { invocation with json := true } code []).parting ≠ .aborted abort)
    (suffice : ∀ last,
      (converse { invocation with json := true } code []).responses.getLast? = some last →
        last.status ≠ .paused) (typed : List Char)
    (outputs : outputsOf (converse { invocation with json := true } code []).response.toValue =
      strings.map Text.ofString ++ output :: rest) (stops : output.encode = .error error) :
    execute read typed terminal =
      ⟨String.join (strings.map (· ++ "\n")), "", .stopped (.encoding error)⟩ := by
  obtain ⟨-, -, shows⟩ := execute_terminal plain found comesAbout suffice typed
  rw [shows]
  exact ofConversation_of_stop outputs stops

end

section
attribute [local instance] CharacterNames.unnamed

/-- A program that asks twice, prints an empty text in between and fails, with both answers
    given. -/
theorem execute_tells_iff_failing_program :
    let code := "x = input('a')\nprint(x)\nprint()\ny = input(x)\nprint(1 / y)".toList
    let read : List Char → Except FileError (List UInt8) := fun _ =>
      .ok (code.map fun c => UInt8.ofNat c.toNat)
    let terminal := ["run".toList, "p".toList, "--input".toList, "2".toList, "--input=0".toList]
    let tracing := terminal ++ ["--json".toList]
    let invocation : Invocation := ⟨some "p".toList, ["2".toList, "0".toList], true, none, none⟩
    let document := (converse invocation code []).response.toValue
    outputsOf document = [("2" : Text), ""] ∧
      failuresOf document = "ZeroDivisionError: division by zero\n" ∧
      (converse { invocation with json := false } code
        (Text.typedLines "1\n".toList)).prompts = [] ∧
      (Tells document (execute read "1\n".toList terminal) ↔
        ∀ output ∈ outputsOf document, output.IsWhole) ∧
      ((∃ text : String, Json.write? Json.indented document = some (text : Text) ∧
          execute read "1\n".toList tracing = ⟨text ++ "\n", "", .exit (codeOf document)⟩) ∨
        Text.digitLimit < (Nat.toDigits 10 (Source.lines code).length).length ∧
          execute read "1\n".toList tracing = ⟨"", "", .stopped (.abort .textTooLong)⟩) := by
  intro code read terminal tracing invocation document
  have settled : (converse invocation code []).parting = .settled := by decide +kernel
  have status : (converse invocation code []).responses.getLast?.map Response.status =
      some .failed := by decide +kernel
  have found : program read (plainPath (invocation.file.getD [])) = .ok code := by decide +kernel
  refine ⟨by decide +kernel, by decide +kernel, ?_⟩
  refine execute_tells_iff (by decide +kernel) (by decide +kernel) found (fun abort => ?_)
    (fun last isLast => ?_) "1\n".toList
  · rw [settled]
    nofun
  · rw [isLast] at status
    rw [Option.some.inj status]
    nofun

/-- A program that prints half of a pair: the terminal stops before it, while its trace is
    written. -/
theorem execute_half_of_pair :
    let code := "print(\"\\ud800\")".toList
    let read : List Char → Except FileError (List UInt8) := fun _ =>
      .ok (code.map fun c => UInt8.ofNat c.toNat)
    let terminal := ["run".toList, "prog.py".toList]
    let tracing := terminal ++ ["--json".toList]
    let invocation : Invocation := ⟨some "prog.py".toList, [], true, none, none⟩
    let document := (converse invocation code []).response.toValue
    (invocation? terminal = some { invocation with json := false } ∧
        invocation? tracing = some invocation ∧
        program read (plainPath (invocation.file.getD [])) = .ok code ∧
        (converse invocation code []).parting = .settled ∧
        (converse invocation code []).responses.getLast?.map Response.status = some .completed) ∧
      outputsOf document = [⟨[.half 0]⟩] ∧
      execute read [] terminal = ⟨"", "", .stopped (.encoding ⟨0, .half 0, 1⟩)⟩ ∧
      ¬ Tells document (execute read [] terminal) ∧
      (execute read [] tracing).conclusion = .exit 0 := by
  intro code read terminal tracing invocation document
  have stopped : execute read [] terminal = ⟨"", "", .stopped (.encoding ⟨0, .half 0, 1⟩)⟩ := by
    decide +kernel
  refine ⟨by decide +kernel, by decide +kernel, stopped, fun tells => ?_, by decide +kernel⟩
  have conclusion := tells.conclusion
  rw [stopped] at conclusion
  cases conclusion

end

end Command

end StepTrace
