import StepTrace.Service.Delivery
import StepTrace.Service.Path
import StepTrace.Service.Request
import StepTrace.Trace.Document

/-!
# The service

Runs on request. A request may wish for lower limits than the standard ones and
never gets higher ones. A run is reported with its trace and its fault; when the
run does not come about, or its trace cannot be written as JSON, the report has an
empty trace and says why.
-/

namespace StepTrace.Service

/-! ## Settings -/

/-- Why a wish is no integer. -/
inductive WishError where
  | unreadable (text : Text)
  | tooLong (digits : Nat)
  | noNumber (kind : ValueKind)
  | noValue
  | infinite
  deriving DecidableEq, Repr

/-- The wording of what is wrong with a wish. A text is shown up to the two
    hundredth character of its quotation. -/
def WishError.message : WishError → String
  | unreadable text =>
    "invalid literal for int() with base 10: " ++
      String.ofList ((Text.quoted text).take 200)
  | tooLong digits => literalTooLongMessage digits
  | noNumber kind =>
    "int() argument must be a string, a bytes-like object or a real number, not '" ++
      kind.word ++ "'"
  | noValue => "cannot convert float NaN to integer"
  | infinite => "cannot convert float infinity to integer"

/-- The integer that a wish is taken for. A fractional part is dropped. -/
def wish : Value → Except WishError Int
  | .int n => .ok n
  | .bool b => .ok (if b then 1 else 0)
  | .float .nan => .error .noValue
  | .float (.infinite _) => .error .infinite
  | .float x => .ok x.truncate
  | .str text =>
    match text.chars?.map Text.readInt with
    | some (.ok n) => .ok n
    | some (.error .malformed) | none => .error (.unreadable text)
    | some (.error (.tooLong digits)) => .error (.tooLong digits)
  | value => .error (.noNumber value.kind)

/-- A limit that is wished for, but never more than the standard one. -/
def capped (settings : Scope) (name : String) (standard : Int) : Except WishError Int :=
  match settings.get? name with
  | none => .ok standard
  | some value => (wish value).map (min · standard)

/-- The limits that settings come to. -/
def limitsOf (settings : Scope) : Except WishError Limits := do
  let steps ← capped settings "max_steps" Limits.standard.steps
  let loop ← capped settings "max_loop" Limits.standard.loop
  return ⟨steps, loop⟩

/-! ## What can be reported -/

/-- Why a value cannot be written as JSON. -/
inductive Obstacle where
  | notFinite
  | textTooLong
  deriving DecidableEq, Repr

/-- The wording of an obstacle. -/
def Obstacle.message : Obstacle → String
  | notFinite => "Out of range float values are not JSON compliant"
  | textTooLong => textTooLongMessage

mutual

/-- The first obstacle in a value. -/
def obstacle? : Value → Option Obstacle
  | .int n => if (Text.decimal? n).isSome then none else some .textTooLong
  | .float x => if x.isFinite then none else some .notFinite
  | .list items => itemsObstacle? items
  | .dict entries => entriesObstacle? entries
  | _ => none

/-- The first obstacle in a list of values. -/
def itemsObstacle? : List Value → Option Obstacle
  | [] => none
  | item :: rest => (obstacle? item).or (itemsObstacle? rest)

/-- The first obstacle in the values of a dictionary. -/
def entriesObstacle? : List (Text × Value) → Option Obstacle
  | [] => none
  | (_, value) :: rest => (obstacle? value).or (entriesObstacle? rest)

end

/-- The first obstacle in a trace. -/
def traceObstacle? (trace : List Step) : Option Obstacle :=
  trace.findSome? fun step => entriesObstacle? step.scope

/-! ## Reports -/

/-- The report on a request. -/
inductive Report where
  | ran (response : Response)
  | failed (message : String)
  deriving Repr

/-- The sentence of a report without a run. -/
def serverError (message : String) : String := "ServerError: " ++ message

/-- Runs what is requested. -/
def report [CharacterNames] (request : Request) : Report :=
  match limitsOf request.settings with
  | .error error => .failed (serverError error.message)
  | .ok limits =>
    match run limits request.code.toList request.scope request.start request.answer with
    | .error abort => .failed (serverError abort.message)
    | .ok response =>
      match traceObstacle? response.trace with
      | some obstacle => .failed (serverError obstacle.message)
      | none => .ran response

/-! ## Answers -/

/-- The answer of the service. -/
inductive Reply where
  | report (report : Report)
  | refused (problems : List Problem)
  | unreadable
  | alive
  | notFound
  | wrongMethod
  | bare (status : Nat)
  deriving Repr

/-- The number of an answer. -/
def Reply.status : Reply → Nat
  | report _ | alive => 200
  | unreadable => 400
  | notFound => 404
  | wrongMethod => 405
  | refused _ => 422
  | bare status => status

/-- The sentence of an answer that has one. -/
def Reply.detail? : Reply → Option String
  | unreadable => some "There was an error parsing the body"
  | notFound => some "Not Found"
  | wrongMethod => some "Method Not Allowed"
  | _ => none

/-- A report as it is delivered. -/
def Report.delivered : Report → Report
  | ran response => ran (deliveredResponse response)
  | failed message => failed message

/-- Whether the JSON text of a value can be written in UTF-8. -/
def isEncodable (value : Value) : Bool :=
  ((Json.write? Json.inline value).bind Text.chars?).isSome

/-- A report as an answer. Where half of a pair stands in it, there is no document. -/
def delivery (report : Report) : Reply :=
  match report.delivered with
  | .ran response => if isEncodable response.toValue then .report (.ran response) else .bare 500
  | failed => .report failed

/-- A refusal shows what is given for each problem; where that cannot be written as
    JSON, there is no document. -/
def refusal (problems : List Problem) : Reply :=
  if problems.all fun problem =>
      (obstacle? (delivered problem.given)).isNone && isEncodable (delivered problem.given) then
    .refused problems
  else .bare 500

/-- What a body comes to; an empty body is none. -/
def answerBody [CharacterNames] (body : List UInt8) : Reply :=
  if body.isEmpty then .refused [⟨.missing, [.field "body"], .null⟩]
  else
    match Json.readBytes body with
    | .error (.malformed offset) =>
      .refused [⟨.noJson, [.field "body", .offset offset], .dict []⟩]
    | .error _ => .unreadable
    | .ok value =>
      match Request.ofValue value with
      | .ok request => delivery (Service.report request)
      | .error problems => refusal problems

/-! ## Paths and methods -/

/-- The paths of the pages that describe the service. -/
def pages : List String := ["/docs", "/docs/oauth2-redirect", "/redoc", "/openapi.json"]

/-- The answer to a request with a method, a path and a body, with its document. -/
def fullAnswer [CharacterNames] (method : String) (path : List Char) (body : List UInt8) : Reply :=
  if names path "/trace" then
    if method = "POST" then answerBody body else .wrongMethod
  else if names path "/health" then
    if method = "GET" then .alive else .wrongMethod
  else if pages.any (names path) then
    if method = "GET" ∨ method = "HEAD" then .bare 200 else .wrongMethod
  else .notFound

/-- The answer to a request. Asked for the head alone, it has no document. -/
def answer [CharacterNames] (method : String) (path : List Char) (body : List UInt8) : Reply :=
  let reply := fullAnswer method path body
  if method = "HEAD" then .bare reply.status else reply

end StepTrace.Service
