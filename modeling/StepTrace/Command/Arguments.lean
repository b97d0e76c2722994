import StepTrace.Text.Integer

/-!
# Arguments

The arguments of the command line: the word `run`, one file, and options in any
order. An option may be shortened to any beginning that fits no other one, and its
value follows as the next argument or after an equals sign. An argument that begins
with a hyphen is no option where it is a hyphen alone, looks like a negative number,
or holds a space and fits no option. After two hyphens alone there are no options.
-/

namespace StepTrace.Command

/-- The options. -/
inductive Setting where
  | answer
  | json
  | steps
  | loop
  deriving DecidableEq, Repr

/-- The options by name. -/
def settings : List (List Char × Setting) :=
  [("--input".toList, .answer), ("--json".toList, .json), ("--max-steps".toList, .steps),
    ("--max-loop".toList, .loop)]

/-- What an argument is on its own. -/
inductive Shape where
  | operand
  | option (setting : Setting) (value : Option (List Char))
  | refused
  deriving DecidableEq, Repr

/-- A hyphen before digits, with at most a point that digits follow; a line end may
    come last. -/
def looksNegative : List Char → Bool
  | '-' :: rest =>
    let body := if rest.getLast? = some '\n' then rest.dropLast else rest
    let whole := body.takeWhile Text.isDigit
    match body.dropWhile Text.isDigit with
    | [] => !whole.isEmpty
    | '.' :: fraction => !fraction.isEmpty && fraction.all Text.isDigit
    | _ => false
  | _ => false

/-- The options that a beginning fits. -/
def fitting (beginning : List Char) : List Setting :=
  (settings.filter fun (name, _) => beginning.isPrefixOf name).map Prod.snd

/-- What an argument is on its own. -/
def shape (argument : List Char) : Shape :=
  match argument with
  | '-' :: '-' :: _ =>
    let beginning := argument.takeWhile (· != '=')
    let value := (argument.dropWhile (· != '=')).tail?
    match fitting beginning with
    | [setting] => .option setting value
    | [] => if ' ' ∈ argument then .operand else .refused
    | _ => .refused
  | '-' :: _ :: _ => if looksNegative argument || argument.contains ' ' then .operand else .refused
  | _ => .operand

/-- What the arguments ask for. -/
structure Invocation where
  file : Option (List Char)
  answers : List (List Char)
  json : Bool
  steps : Option Int
  loop : Option Int
  deriving DecidableEq, Repr

namespace Invocation

/-- Before the first argument. -/
def empty : Invocation := ⟨none, [], false, none, none⟩

/-- Takes the file, of which there is one. -/
def addFile (invocation : Invocation) (path : List Char) : Option Invocation :=
  if invocation.file.isSome then none else some { invocation with file := some path }

/-- Takes the value of an option. -/
def addValue (invocation : Invocation) (setting : Setting) (value : List Char) :
    Option Invocation :=
  match setting with
  | .answer => some { invocation with answers := invocation.answers ++ [value] }
  | .json => none
  | .steps => (Text.readInt value).toOption.map fun n => { invocation with steps := some n }
  | .loop => (Text.readInt value).toOption.map fun n => { invocation with loop := some n }

/-- Takes what follows two hyphens: the file, or nothing where the file stands right
    before them. -/
def addLast (invocation : Invocation) (fileBefore : Bool) :
    List (List Char) → Option Invocation
  | [] => if fileBefore then some invocation else none
  | [path] => invocation.addFile path
  | _ => none

/-- Takes arguments one after the other, where it is known whether the file stands
    right before them. -/
def addAll (invocation : Invocation) (fileBefore : Bool) (arguments : List (List Char)) :
    Option Invocation :=
  match arguments with
  | [] => some invocation
  | first :: rest =>
    if first = ['-', '-'] then invocation.addLast fileBefore rest
    else
      match shape first with
      | .operand =>
        match invocation.addFile first with
        | some next => addAll next true rest
        | none => none
      | .option setting (some value) =>
        match invocation.addValue setting value with
        | some next => addAll next false rest
        | none => none
      | .option .json none => addAll { invocation with json := true } false rest
      | .option setting none =>
        match rest with
        | [] => none
        | value :: others =>
          if value = ['-', '-'] ∨ shape value ≠ .operand then none
          else
            match invocation.addValue setting value with
            | some next => addAll next false others
            | none => none
      | .refused => none
termination_by structural arguments

end Invocation

/-- What the arguments of a command line ask for, or nothing when they are not as
    they have to be. -/
def invocation? : List (List Char) → Option Invocation
  | first :: rest =>
    if first = "run".toList then
      (Invocation.empty.addAll false rest).bind fun found =>
        if found.file.isSome then some found else none
    else none
  | [] => none

end StepTrace.Command
