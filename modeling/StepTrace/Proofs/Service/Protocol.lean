import StepTrace.Proofs.Conversation.Order
import StepTrace.Proofs.Trace.Presentable

/-!
# The protocol of the service

A client runs a program to its end by requests, each of which takes what it sends from the last
step of the document before it: the variables, the line and the name of the variable that is
asked for. The step says all that a paused run is taken up with, so the documents are those of
the runs of a conversation with the same answers (`documents_agree`), however the requests are
received, as long as their fields come through (`Delivers`). What is checked of a request by
`Request.ofValue` lets them through (`delivers_ofValue`).
-/

namespace StepTrace.Service

/-- The document of a report; where no run came about it has no steps. -/
def Report.toValue : Report → Value
  | .ran response => response.toValue
  | .failed message => .dict [("trace", .list []), ("error", .str message)]

/-! ## Documents as a client reads them -/

/-- A field of a document. -/
def field? : Value → Text → Option Value
  | .dict entries, name => Scope.get? entries name
  | _, _ => none

/-- The steps in a document. -/
def stepsOf (document : Value) : List Value :=
  match field? document "trace" with
  | some (.list steps) => steps
  | _ => []

/-- The error in a document. -/
def errorOf (document : Value) : Value := (field? document "error").getD .null

/-- Documents as one: all steps in order, and the last error. -/
def joined (documents : List Value) : Value :=
  .dict [("trace", .list (documents.flatMap stepsOf)),
    ("error", (documents.getLast?.map errorOf).getD .null)]

/-! ## Requests as a client makes them -/

/-- The request for a program from its first line on. -/
def opening (code : String) : Value := .dict [("code", .str code)]

/-- The request after a document whose last step requires an input, with an answer. -/
def following? (code : String) (text : Text) (document : Value) : Option Value := do
  let step ← (stepsOf document).getLast?
  if field? step "requiresInput" = some (.bool true) then
    let scope ← field? step "variables"
    let line ← field? step "lineNumber"
    let target ← field? step "inputVariable"
    return .dict [("code", .str code), ("scope", scope), ("startLine", line),
      ("providedInput", .dict [("variable", target), ("value", .str text)])]
  else none

/-- The documents that a request and those after it are answered with, as long as inputs are
    required and answers are left. A request that is refused has none. -/
def documents [CharacterNames] (receive : Value → Checked Request) (code : String) :
    List Text → Value → List Value
  | answers, request =>
    match receive request with
    | .error _ => []
    | .ok checked =>
      let document := (report checked).toValue
      match answers with
      | [] => [document]
      | text :: rest =>
        match following? code text document with
        | none => [document]
        | some next => document :: documents receive code rest next

variable {limits : Limits} {lines : List Char} {response : Response}

/-! ## What a document says -/

theorem stepsOf_toValue (response : Response) :
    stepsOf response.toValue = response.trace.map Step.toValue := rfl

/-- The fields of a step that every step has. -/
theorem field?_toValue (step : Step) :
    field? step.toValue "variables" = some (.dict step.scope) ∧
      field? step.toValue "lineNumber" = some (.int step.line) := ⟨rfl, rfl⟩

/-- A step requires an input exactly if it asks for a value. -/
theorem requiresInput_toValue (step : Step) :
    field? step.toValue "requiresInput" = step.asked?.map fun _ => .bool true := by
  obtain ⟨line, event, scope⟩ := step
  cases event <;> rfl

theorem inputVariable_toValue (step : Step) :
    field? step.toValue "inputVariable" = step.asked?.map fun target => .str target := by
  obtain ⟨line, event, scope⟩ := step
  cases event <;> rfl

/-- A paused run with presentable variables goes on with them. -/
theorem presentable_continuation {place : Continuation} (presentable : PresentableTrace response.trace)
    (goesOn : response.continuation? = some place) : place.scope.Presentable := by
  obtain ⟨-, step, isLast, -, same, -⟩ := Response.continuation?_eq_some_iff.mp goesOn
  exact same ▸ presentable step (List.mem_of_getLast? isLast)

/-- The request that takes a paused run up with an answer. -/
def requestAt (code : String) (text : Text) (place : Continuation) : Value :=
  .dict [("code", .str code), ("scope", .dict place.scope), ("startLine", .int place.start),
    ("providedInput", .dict [("variable", .str place.target), ("value", .str text)])]

/-- The last step of a document says all that the run goes on with. -/
theorem following?_toValue [CharacterNames] (returned : Returned limits lines response)
    (code : String) (text : Text) :
    following? code text response.toValue = response.continuation?.map (requestAt code text) := by
  have ends : (stepsOf response.toValue).getLast? = response.trace.getLast?.map Step.toValue := by
    rw [stepsOf_toValue, List.getLast?_map]
  unfold following?
  rw [ends]
  cases goesOn : response.continuation? with
  | some place =>
    obtain ⟨-, step, isLast, asked, scope, line⟩ := Response.continuation?_eq_some_iff.mp goesOn
    obtain ⟨shown, numbered⟩ := field?_toValue step
    have required := requiresInput_toValue step
    have named := inputVariable_toValue step
    rw [asked] at required named
    simp only [isLast, Option.map_some, Option.bind_eq_bind, Option.bind_some, required, if_true,
      shown, numbered, named, scope, line, requestAt, pure]
  | none =>
    cases isLast : response.trace.getLast? with
    | none => rfl
    | some step =>
      have unasked := asked?_eq_none_of_stopped returned goesOn step (List.mem_of_getLast? isLast)
      have required := requiresInput_toValue step
      rw [unasked] at required
      simp [required]

/-! ## Requests as they are received -/

/-- The requests for a program with some answers are received with the fields with which they
    were sent, as far as the variables can be written. -/
structure Delivers (receive : Value → Checked Request) (code : String) (answers : List Text) :
    Prop where
  opening : receive (opening code) = .ok ⟨code, [], 0, none, []⟩
  requestAt : ∀ text ∈ answers, ∀ place : Continuation, place.scope.Presentable →
    receive (requestAt code text place) =
      .ok ⟨code, place.scope, place.start, some ⟨place.target, text⟩, []⟩

/-- A field with a string is a text of characters. -/
private theorem checkString_ofString {entries : Scope} {name string : String}
    (found : entries.get? name = some (.str string)) (path : List String) :
    Request.checkString entries path name = .ok string := by
  have chars : Text.chars? string = some string.toList := Text.chars?_eq_some.mpr rfl
  simp only [Request.checkString, Request.checkText, found, bind, Except.bind, chars,
    String.ofList_toList]

private theorem checkAnswer_of_given {entries : Scope} {target : String} {text : Text}
    (given : entries.get? "providedInput" =
      some (.dict [("variable", .str target), ("value", .str text)])) :
    Request.checkAnswer entries = .ok (some ⟨target, text⟩) := by
  have named : Request.presentName? entries ["providedInput", "provided_input"] =
      some ("providedInput", .dict [("variable", .str target), ("value", .str text)]) := by
    rw [Request.presentName?, List.findSome?_cons, given]
    rfl
  rw [Request.checkAnswer, named]
  dsimp only
  rw [checkString_ofString rfl]
  rfl

theorem ofValue_opening (code : String) :
    Request.ofValue (opening code) = .ok ⟨code, [], 0, none, []⟩ := by
  rw [opening, Request.ofValue, checkString_ofString rfl]
  rfl

theorem ofValue_requestAt (code : String) (text : Text) (place : Continuation) :
    Request.ofValue (requestAt code text place) =
      .ok ⟨code, place.scope, place.start, some ⟨place.target, text⟩, []⟩ := by
  rw [requestAt, Request.ofValue, checkString_ofString rfl, checkAnswer_of_given rfl]
  rfl

/-- What is checked of the requests lets them through. -/
theorem delivers_ofValue (code : String) (answers : List Text) :
    Delivers Request.ofValue code answers :=
  ⟨ofValue_opening code, fun text _ place _ => ofValue_requestAt code text place⟩

/-! ## The documents of a conversation -/

section
variable {receive : Value → Checked Request} {code : String} {text : Text} {rest : List Text}
  {request : Value} {checked : Request}

theorem documents_nil [CharacterNames] (accepted : receive request = .ok checked) :
    documents receive code [] request = [(report checked).toValue] := by
  rw [documents, accepted]

theorem documents_cons [CharacterNames] (accepted : receive request = .ok checked) :
    documents receive code (text :: rest) request =
      (report checked).toValue ::
        ((following? code text (report checked).toValue).map (documents receive code rest)).getD
          [] := by
  rw [documents, accepted]
  cases found : following? code text (report checked).toValue with
  | none => simp only [found, Option.map_none, Option.getD_none]
  | some next => simp only [found, Option.map_some, Option.getD_some]

/-- The documents from a request on are those of the runs that the answers take up. By induction
    on the answers, which the client and the conversation use one by one. -/
theorem documents_goOn [CharacterNames] {scope : Scope} {start : Int} {answer : Option Answer}
    (answers : List Text) (delivers : Delivers receive code answers)
    (accepted : receive request = .ok ⟨code, scope, start, answer, []⟩)
    (presentable : scope.Presentable)
    (returns : run Limits.standard code.toList scope start answer = .ok response)
    (settled : (Conversation.goOn Limits.standard code.toList false
      (Conversation.queue answers []) response).parting = .settled) :
    documents receive code answers request =
      (response :: (Conversation.goOn Limits.standard code.toList false
        (Conversation.queue answers []) response).responses).map Response.toValue := by
  induction answers generalizing scope start answer request response with
  | nil =>
    have reported := @report_of_run _ response _ code scope start answer [] rfl presentable returns
    rw [documents_nil accepted, reported, show Conversation.queue [] [] = [] from rfl,
      Conversation.responses_goOn_nil]
    rfl
  | cons text rest ih =>
    have reported := @report_of_run _ response _ code scope start answer [] rfl presentable returns
    have told := following?_toValue ⟨_, _, _, returns⟩ code text
    rw [documents_cons accepted, reported, Report.toValue, told, List.map_cons]
    refine congrArg _ ?_
    rw [Conversation.queue_cons] at settled ⊢
    cases goesOn : response.continuation? with
    | none =>
      rw [Conversation.goOn_of_stopped _ _ goesOn]
      rfl
    | some place =>
      cases resumed : run Limits.standard code.toList place.scope place.start
          (some ⟨place.target, text⟩) with
      | error abort =>
        rw [Conversation.goOn_of_aborted false ⟨text, false⟩ _ goesOn resumed] at settled
        cases settled
      | ok next =>
        have kept := presentable_continuation (presentableTrace_of_run presentable returns) goesOn
        rw [Conversation.goOn_of_resumed false ⟨text, false⟩ _ goesOn resumed] at settled ⊢
        rw [Conversation.responses_asking, Conversation.responses_ran]
        have taken := delivers.requestAt text List.mem_cons_self place kept
        have others : Delivers receive code rest :=
          ⟨delivers.opening, fun other later => delivers.requestAt other (.tail _ later)⟩
        exact ih others taken kept resumed settled

end

theorem joined_map_toValue (responses : List Response) :
    joined (responses.map Response.toValue) =
      Response.toValue ⟨responses.flatMap Response.trace, responses.getLast?.bind Response.error⟩ := by
  have steps : (responses.map Response.toValue).flatMap stepsOf =
      (responses.flatMap Response.trace).map Step.toValue := by
    rw [List.flatMap_map, List.map_flatMap]
    rfl
  have error : ((responses.map Response.toValue).getLast?.map errorOf).getD .null =
      (responses.getLast?.bind Response.error).elim .null fun fault => .str fault.describe := by
    rw [List.getLast?_map]
    cases responses.getLast? <;> rfl
  rw [joined, steps, error]
  rfl

/-- Where their fields come through, the documents of the chain of requests are those of the runs
    of the conversation with the same answers, so as one they are the document of all that the
    conversation records. -/
theorem documents_agree [CharacterNames] {receive : Value → Checked Request} {code : String}
    {answers : List Text} (delivers : Delivers receive code answers)
    (comesAbout : ∀ abort,
      (Conversation.hold Limits.standard code.toList answers none).parting ≠ .aborted abort) :
    documents receive code answers (opening code) =
        (Conversation.hold Limits.standard code.toList answers none).responses.map
          Response.toValue ∧
      joined (documents receive code answers (opening code)) =
        (Conversation.hold Limits.standard code.toList answers none).response.toValue := by
  cases returned : run Limits.standard code.toList [] 0 none with
  | error abort =>
    have aborted : (Conversation.hold Limits.standard code.toList answers none).parting =
        .aborted abort := by simp [Conversation.hold, returned]
    exact absurd aborted (comesAbout abort)
  | ok first =>
    have nobody : Conversation.Replied Limits.standard code.toList answers none none := rfl
    have settled := Conversation.settled_of_replied nobody comesAbout
    have whole := Conversation.hold_of_returned answers none returned
    have documented : documents receive code answers (opening code) =
        (Conversation.hold Limits.standard code.toList answers none).responses.map
          Response.toValue := by
      rw [whole] at settled ⊢
      exact documents_goOn answers delivers delivers.opening (by simp [Scope.Presentable]) returned
        settled
    exact ⟨documented, by rw [documented, joined_map_toValue]; rfl⟩

section
attribute [local instance] CharacterNames.unnamed

/-- A program that is paused in a loop and after it, and that fails with its second answer. -/
theorem documents_agree_two_answers :
    (Conversation.hold Limits.standard
        "for i in range(2):\n  n = input('a')\nprint(n / 2)\nm = input(n)\nx = m + n".toList
        ["3", "y"] none).parting = .settled ∧
      (documents Request.ofValue
        "for i in range(2):\n  n = input('a')\nprint(n / 2)\nm = input(n)\nx = m + n"
        ["3", "y"]
        (opening "for i in range(2):\n  n = input('a')\nprint(n / 2)\nm = input(n)\nx = m + n")).length =
          3 ∧
      joined (documents Request.ofValue
          "for i in range(2):\n  n = input('a')\nprint(n / 2)\nm = input(n)\nx = m + n"
          ["3", "y"]
          (opening "for i in range(2):\n  n = input('a')\nprint(n / 2)\nm = input(n)\nx = m + n")) =
        (Conversation.hold Limits.standard
          "for i in range(2):\n  n = input('a')\nprint(n / 2)\nm = input(n)\nx = m + n".toList
          ["3", "y"] none).response.toValue := by
  have settled : (Conversation.hold Limits.standard
      "for i in range(2):\n  n = input('a')\nprint(n / 2)\nm = input(n)\nx = m + n".toList
      ["3", "y"] none).parting = .settled := by decide +kernel
  have comesAbout : ∀ abort, (Conversation.hold Limits.standard
      "for i in range(2):\n  n = input('a')\nprint(n / 2)\nm = input(n)\nx = m + n".toList
      ["3", "y"] none).parting ≠ .aborted abort := by
    rw [settled]
    exact fun _ => nofun
  obtain ⟨documented, agree⟩ := documents_agree (delivers_ofValue _ _) comesAbout
  refine ⟨settled, ?_, agree⟩
  rw [documented, List.length_map]
  decide +kernel

end

end StepTrace.Service
