import StepTrace.Command

/-!
# The program

The command line in a terminal: reads the file, writes what a command writes, and
reads a line whenever a question is asked. With each line that is typed the
conversation is held again from its start, and what it adds to the output is shown.
No character has a name here.
-/

open StepTrace

namespace StepTrace.Command

attribute [local instance] CharacterNames.unnamed

/-- The bytes of a file, or why it cannot be read. -/
def readFile (path : String) : IO (Except FileError (List UInt8)) := do
  match ← (IO.FS.readBinFile path).toBaseIO with
  | .ok bytes => return .ok bytes.toList
  | .error (.noFileOrDirectory ..) => return .error .missing
  | .error (.inappropriateType ..) => return .error .directory
  | .error (.invalidArgument ..) => return .error .nameTooLong
  | .error _ => return .error .throughFile

/-- Shows how a command ends. -/
def conclude (result : Result) : IO UInt32 := do
  IO.eprint result.failures
  match result.conclusion with
  | .exit code => return code.toUInt32
  | .usage =>
    IO.eprintln "usage: run FILE [--input TEXT] [--json] [--max-steps N] [--max-loop N]"
    return 2
  | .stopped error =>
    IO.eprintln error.message
    return 1

/-- Whether a line has to be typed: a question is shown that has no reply. -/
def awaits (conversation : Conversation) (result : Result) : Bool :=
  conversation.parting = .unanswered && result.conclusion matches .exit _

/-- Holds a conversation in the terminal, where so many characters of the output
    are shown already. -/
partial def talk (invocation : Invocation) (code : List Char) (typed : List (List Char))
    (known : Nat) : IO UInt32 := do
  let conversation := converse invocation code typed
  let result := resultOf invocation conversation
  IO.print (String.ofList (result.output.toList.drop known))
  (← IO.getStdout).flush
  if awaits conversation result then
    let line ← (← IO.getStdin).getLine
    match Text.typedLines line.toList with
    | [] => conclude result
    | lines => talk invocation code (typed ++ lines) result.output.length
  else conclude result

end StepTrace.Command

attribute [local instance] CharacterNames.unnamed in
/-- Runs a command line. -/
def main (arguments : List String) : IO UInt32 := do
  match Command.invocation? (arguments.map String.toList) with
  | none => Command.conclude ⟨"", "", .usage⟩
  | some invocation =>
    let path := Command.plainPath (invocation.file.getD [])
    let bytes ← Command.readFile (String.ofList path)
    match Command.program (fun _ => bytes) path with
    | .error error => Command.conclude ⟨"", "", .stopped error⟩
    | .ok code => Command.talk invocation code [] 0
