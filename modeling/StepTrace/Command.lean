import StepTrace.Command.Arguments
import StepTrace.Conversation
import StepTrace.Text.Encode
import StepTrace.Text.LineEnd
import StepTrace.Text.Utf8
import StepTrace.Trace.Document

/-!
# The command line

Runs the program of a file in a terminal. What a program prints is shown while it
runs, and its questions are answered by the answers given in advance and then by
what is typed. Instead of the output the whole trace can be written as JSON, and
then nothing is asked. A terminal is written to in UTF-8, so the command stops
before a text that holds half of a pair alone; the JSON text is ASCII, where such a
half has an escape.
-/

namespace StepTrace.Command

/-- Why a file cannot be read. -/
inductive FileError where
  | missing
  | directory
  | throughFile
  | nameTooLong
  deriving DecidableEq, Repr

/-- The wording of a file error. -/
def FileError.message : FileError → String
  | missing => "[Errno 2] No such file or directory"
  | directory => "[Errno 21] Is a directory"
  | throughFile => "[Errno 20] Not a directory"
  | nameTooLong => "[Errno 36] File name too long"

/-- What keeps a command from coming to an end. -/
inductive Error where
  | file (error : FileError) (path : List Char)
  | nullInPath
  | decoding (error : Text.Utf8Error)
  | encoding (error : Text.EncodeError)
  | abort (abort : Abort)
  deriving DecidableEq, Repr

/-- The bytes that an encoding error is about. -/
def bytesMessage (error : Text.Utf8Error) : String :=
  let first := shownInt error.offset
  if error.count = 1 then
    "byte 0x" ++ String.ofList (Text.hexDigits 2 error.byte.toNat) ++ " in position " ++ first
  else
    let last := shownInt (error.offset + error.count - 1)
    "bytes in position " ++ first ++ "-" ++ last

/-- The wording of an error. -/
def Error.message : Error → String
  | file error path => error.message ++ ": " ++ String.ofList (Text.quoted (.ofChars path))
  | nullInPath => "embedded null byte"
  | decoding error =>
    "'utf-8' codec can't decode " ++ bytesMessage error ++ ": " ++ error.reason.message
  | encoding error => error.message
  | abort cause => cause.message

/-- How a command ends. -/
inductive Conclusion where
  | exit (code : Nat)
  | usage
  | stopped (error : Error)
  deriving DecidableEq, Repr

/-- What a command writes, and how it ends. -/
structure Result where
  output : String
  failures : String
  conclusion : Conclusion
  deriving DecidableEq, Repr

/-! ## Files -/

/-- The parts of a path, without those that lead nowhere. -/
def pathParts (path : List Char) : List (List Char) :=
  (Text.split '/' path).filter fun part => !part.isEmpty && part != ['.']

/-- The slashes in front of a path that starts at the root: one, unless there are
    exactly two. -/
def rootOf (path : List Char) : List Char :=
  match path.takeWhile (· == '/') with
  | [] => []
  | ['/', '/'] => ['/', '/']
  | _ => ['/']

/-- A path as it is opened and shown. -/
def plainPath (path : List Char) : List Char :=
  match rootOf path ++ Text.join ['/'] (pathParts path) with
  | [] => ['.']
  | plain => plain

/-- The program in a file. -/
def program (read : List Char → Except FileError (List UInt8)) (path : List Char) :
    Except Error (List Char) := do
  if '\x00' ∈ path then throw .nullInPath
  let bytes ← (read path).mapError fun error => Error.file error path
  let text ← (Text.utf8 bytes).mapError Error.decoding
  return Text.unifyLineEnds text

/-! ## Conversations in a terminal -/

/-- The texts that an exchange shows. -/
def shown : Exchange → List Text
  | .ran response => response.outputs.map (· ++ ("\n" : Text))
  | .asked prompt => [prompt]

/-- What is written of texts, which are written one after the other up to the first
    that cannot be, and why that one cannot be. -/
def written : List Text → String × Option Text.EncodeError
  | [] => ("", none)
  | text :: rest =>
    match text.encode with
    | .error error => ("", some error)
    | .ok front =>
      let (back, stop) := written rest
      (front ++ back, stop)

/-- What is said when a question finds no reply. -/
def closedInput : String := "error: program is waiting for input but stdin is closed\n"

/-- The exit code of a program that ended with a fault or without one. -/
def exitCode (response : Response) : Nat := if response.error.isSome then 1 else 0

/-- The result of a conversation. -/
def ofConversation (conversation : Conversation) : Result :=
  match written (conversation.exchanges.flatMap shown) with
  | (output, some error) => ⟨output, "", .stopped (.encoding error)⟩
  | (output, none) =>
    match conversation.parting with
    | .aborted abort => ⟨output, "", .stopped (.abort abort)⟩
    | .unanswered => ⟨output, closedInput, .exit 1⟩
    | .settled =>
      let response := conversation.response
      let failures := response.error.elim "" fun fault => fault.describe ++ "\n"
      ⟨output, failures, .exit (exitCode response)⟩

/-- The result of a conversation of which the trace is written. -/
def traced (conversation : Conversation) : Result :=
  match conversation.parting with
  | .aborted abort => ⟨"", "", .stopped (.abort abort)⟩
  | _ =>
    let response := conversation.response
    match Json.write? Json.indented response.toValue with
    | some text =>
      match written [text ++ ("\n" : Text)] with
      | (output, some error) => ⟨output, "", .stopped (.encoding error)⟩
      | (output, none) => ⟨output, "", .exit (exitCode response)⟩
    | none => ⟨"", "", .stopped (.abort .textTooLong)⟩

/-! ## Commands -/

/-- The limits that the arguments ask for. -/
def Invocation.limits (invocation : Invocation) : Limits :=
  { steps := invocation.steps.getD Limits.standard.steps
    loop := invocation.loop.getD Limits.standard.loop }

/-- The conversation that the arguments ask for with a program, where the lines
    typed so far are known. Nothing is asked where the trace is written. -/
def converse [CharacterNames] (invocation : Invocation) (code : List Char)
    (typed : List (List Char)) : Conversation :=
  Conversation.hold invocation.limits code (invocation.answers.map .ofChars)
    (if invocation.json then none else some (typed.map .ofChars))

/-- The result of a conversation in the form that the arguments ask for. -/
def resultOf (invocation : Invocation) (conversation : Conversation) : Result :=
  if invocation.json then traced conversation else ofConversation conversation

/-- The result of a command line, given how files are read and what is typed. -/
def execute [CharacterNames] (read : List Char → Except FileError (List UInt8)) (typed : List Char)
    (arguments : List (List Char)) : Result :=
  match invocation? arguments with
  | none => ⟨"", "", .usage⟩
  | some invocation =>
    match program read (plainPath (invocation.file.getD [])) with
    | .error error => ⟨"", "", .stopped error⟩
    | .ok code => resultOf invocation (converse invocation code (Text.typedLines typed))

end StepTrace.Command
