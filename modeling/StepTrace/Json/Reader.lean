import StepTrace.Json.Encoding
import StepTrace.Json.Token
import StepTrace.Scope

/-!
# Reading JSON

A JSON text as a value. Numbers without point and exponent are integers; a key
that comes again keeps its place and takes the last value. A text that is no JSON
is refused with the number of characters before what is wrong.
-/

namespace StepTrace.Json

/-- Why a text is no JSON. -/
inductive ReadError where
  | malformed (offset : Nat)
  | integerTooLong
  | undecodable
  deriving DecidableEq, Repr

/-- A list or dictionary that was begun, up to the item that is read. -/
inductive Level where
  /-- A list with its items so far, the last one first. -/
  | list (items : List Value)
  /-- A dictionary with its entries so far and the key of the next one. -/
  | dict (entries : Scope) (key : Text)
  deriving Repr

/-- What is due next. -/
inductive Due where
  | value (empty : Bool)
  | key (entries : Scope) (empty : Bool)
  | colon (entries : Scope) (key : Text)
  | after (value : Value)
  deriving Repr

/-- The offset of the next token, or of the end of the text. -/
def nextOffset (stop : Nat) : List Token → Nat
  | [] => stop
  | token :: _ => token.offset

/-- Reads on within the levels begun so far, the innermost first. -/
def readOn (stop : Nat) (levels : List Level) (due : Due) (tokens : List Token) :
    Except ReadError Value :=
  match due with
  | .value empty =>
    match tokens with
    | ⟨_, .text text⟩ :: rest => readOn stop levels (.after (.str text)) rest
    | ⟨_, .value value⟩ :: rest => readOn stop levels (.after value) rest
    | ⟨_, .badText offset⟩ :: _ => .error (.malformed offset)
    | ⟨_, .tooLong⟩ :: _ => .error .integerTooLong
    | ⟨offset, .mark c⟩ :: rest =>
      if c = '[' then readOn stop (.list [] :: levels) (.value true) rest
      else if c = '\x7b' then readOn stop levels (.key [] true) rest
      else
        match c, empty, levels with
        | ']', true, .list items :: outer => readOn stop outer (.after (.list items.reverse)) rest
        | _, _, _ => .error (.malformed offset)
    | _ => .error (.malformed (nextOffset stop tokens))
  | .key entries empty =>
    match tokens with
    | ⟨_, .text text⟩ :: rest => readOn stop levels (.colon entries text) rest
    | ⟨_, .badText offset⟩ :: _ => .error (.malformed offset)
    | ⟨offset, .mark c⟩ :: rest =>
      if c = '\x7d' ∧ empty = true then readOn stop levels (.after (.dict entries)) rest
      else .error (.malformed offset)
    | _ => .error (.malformed (nextOffset stop tokens))
  | .colon entries key =>
    match tokens with
    | ⟨_, .mark ':'⟩ :: rest => readOn stop (.dict entries key :: levels) (.value false) rest
    | _ => .error (.malformed (nextOffset stop tokens))
  | .after value =>
    match levels, tokens with
    | [], [] => .ok value
    | .list items :: outer, ⟨_, .mark ','⟩ :: rest =>
      readOn stop (.list (value :: items) :: outer) (.value false) rest
    | .list items :: outer, ⟨_, .mark ']'⟩ :: rest =>
      readOn stop outer (.after (.list (value :: items).reverse)) rest
    | .dict entries key :: outer, ⟨_, .mark ','⟩ :: rest =>
      readOn stop outer (.key (entries.set key value) false) rest
    | .dict entries key :: outer, ⟨_, .mark '\x7d'⟩ :: rest =>
      readOn stop outer (.after (.dict (entries.set key value))) rest
    | _, _ => .error (.malformed (nextOffset stop tokens))
termination_by structural tokens

/-- The value of a JSON text. A byte order mark in front of it is not part of it. -/
def read (text : List Char) : Except ReadError Value :=
  let body := (Text.afterFront? ['\uFEFF'] text).getD text
  readOn body.length [] (.value false) (tokens 0 body)

/-- The value of a JSON text that comes as bytes. -/
def readBytes (bytes : List UInt8) : Except ReadError Value :=
  match decode? bytes with
  | none => .error .undecodable
  | some text => read text

end StepTrace.Json
