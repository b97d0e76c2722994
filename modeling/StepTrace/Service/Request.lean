import StepTrace.Json.Reader
import StepTrace.Run
import StepTrace.Service.WholeNumber

/-!
# Requests

A request for a run is a JSON object. It is checked field by field, and a request
that is wrong is refused with everything that is wrong with it, in the order of the
fields: the program, its variables, the first line, an answer, and settings. The
program and the name of an answered variable are read as characters only, while an
answer and the variables may hold halves of pairs.
-/

namespace StepTrace.Service

/-- What is wrong with a part of a request. -/
inductive ProblemKind where
  | missing
  | noText
  | noCharacters
  | noDictionary
  | noObject
  | noInteger
  | unreadableInteger
  | oversizedInteger
  | fractionalNumber
  | infiniteNumber
  | belowMinimum
  | noJson
  deriving DecidableEq, Repr

/-- The word for a kind of problem. -/
def ProblemKind.word : ProblemKind → String
  | missing => "missing"
  | noText => "string_type"
  | noCharacters => "string_unicode"
  | noDictionary => "dict_type"
  | noObject => "model_attributes_type"
  | noInteger => "int_type"
  | unreadableInteger => "int_parsing"
  | oversizedInteger => "int_parsing_size"
  | fractionalNumber => "int_from_float"
  | infiniteNumber => "finite_number"
  | belowMinimum => "greater_than_equal"
  | noJson => "json_invalid"

/-- A part of a place in a request. -/
inductive Place where
  | field (name : String)
  | offset (characters : Nat)
  deriving DecidableEq, Repr

/-- A problem and where it is, from the outside in. -/
structure Problem where
  kind : ProblemKind
  place : List Place
  given : Value
  deriving Repr

/-- A request for a run. -/
structure Request where
  code : String
  scope : Scope
  start : Int
  answer : Option Answer
  settings : List (Text × Value)
  deriving Repr

/-- A part of a request, or what is wrong with it. -/
abbrev Checked (α : Type) := Except (List Problem) α

namespace Request

/-- A single problem with what is given. -/
def refuse {α : Type} (kind : ProblemKind) (path : List String) (given : Value) : Checked α :=
  .error [⟨kind, path.map .field, given⟩]

/-- Two parts, or what is wrong with either. -/
def both {α β : Type} : Checked α → Checked β → Checked (α × β)
  | .ok a, .ok b => .ok (a, b)
  | .error problems, .ok _ => .error problems
  | .ok _, .error problems => .error problems
  | .error problems, .error more => .error (problems ++ more)

/-! ## Kinds of field -/

/-- A field that has to be a text. -/
def checkText (entries : Scope) (path : List String) (name : String) : Checked Text :=
  match entries.get? name with
  | some (.str text) => .ok text
  | some given => refuse .noText (path ++ [name]) given
  | none => refuse .missing (path ++ [name]) (.dict entries)

/-- A field that has to be a text of characters. -/
def checkString (entries : Scope) (path : List String) (name : String) : Checked String := do
  let text ← checkText entries path name
  match text.chars? with
  | some chars => .ok (String.ofList chars)
  | none => refuse .noCharacters (path ++ [name]) (.str text)

/-- A value that counts as an integer: an integer, a truth value, a number without
    a fractional part in the range of 64 bits, or the text of an integer. -/
def integer : Value → Except ProblemKind Int
  | .int n => .ok n
  | .bool b => .ok (if b then 1 else 0)
  | .float x =>
    if !x.isFinite then .error .infiniteNumber
    else if !x.isIntegral then .error .fractionalNumber
    else if x.truncate.natAbs < Nat.pow 2 63 then .ok x.truncate
    else .error .oversizedInteger
  | .str text =>
    match text.chars?.map wholeNumber with
    | some (.ok n) => .ok n
    | some (.error .malformed) | none => .error .unreadableInteger
    | some (.error .tooLong) => .error .oversizedInteger
  | _ => .error .noInteger

/-! ## The fields -/

/-- A name of a field that is there, the first one preferred. -/
def presentName? (entries : Scope) (names : List String) : Option (String × Value) :=
  names.findSome? fun name : String => (entries.get? name).map (name, ·)

/-- The variables at the start, none unless they are given. -/
def checkScope (entries : Scope) : Checked Scope :=
  match entries.get? "scope" with
  | none => .ok []
  | some (.dict scope) => .ok scope
  | some given => refuse .noDictionary ["body", "scope"] given

/-- The number of lines that are not run, zero unless it is given. -/
def checkStart (entries : Scope) : Checked Int :=
  match presentName? entries ["startLine", "start_line"] with
  | none => .ok 0
  | some (name, value) =>
    match integer value with
    | .error kind => refuse kind ["body", name] value
    | .ok n => if n < 0 then refuse .belowMinimum ["body", name] value else .ok n

/-- An answer, if it is given. -/
def checkAnswer (entries : Scope) : Checked (Option Answer) :=
  match presentName? entries ["providedInput", "provided_input"] with
  | none | some (_, .null) => .ok none
  | some (name, .dict parts) =>
    let path := ["body", name]
    (both (checkString parts path "variable") (checkText parts path "value")).map
      fun (target, typed) => some ⟨target, typed⟩
  | some (name, given) => refuse .noObject ["body", name] given

/-- The limits that the sender wishes, none unless they are given. -/
def checkSettings (entries : Scope) : Checked (List (Text × Value)) :=
  match entries.get? "settings" with
  | none | some .null => .ok []
  | some (.dict wishes) => .ok wishes
  | some given => refuse .noDictionary ["body", "settings"] given

/-- The request that a value is. -/
def ofValue : Value → Checked Request
  | .dict entries =>
    let fields := both (checkString entries ["body"] "code") <| both (checkScope entries) <|
      both (checkStart entries) <| both (checkAnswer entries) (checkSettings entries)
    fields.map fun (code, scope, start, answer, settings) => ⟨code, scope, start, answer, settings⟩
  | given => refuse .noObject ["body"] given

end Request

end StepTrace.Service
