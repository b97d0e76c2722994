import StepTrace.Run

/-!
# Conversations

Running a program to its end by answering its questions. The answers given in
advance are used first; after them each question is asked, if there is anyone to
ask, and a question that nobody answers leaves the program paused.
-/

namespace StepTrace

/-- A text that answers a question. -/
structure Reply where
  text : Text
  /-- Whether it was typed when the question was asked, and not given in advance. -/
  typed : Bool
  deriving DecidableEq, Repr

/-- What happens in a conversation. -/
inductive Exchange where
  | ran (response : Response)
  | asked (prompt : Text)
  deriving Repr

/-- How a conversation ends. -/
inductive Parting where
  /-- The program stopped, or nobody was there to be asked. -/
  | settled
  | unanswered
  | aborted (abort : Abort)
  deriving DecidableEq, Repr

/-- Everything that happened, in order. -/
structure Conversation where
  exchanges : List Exchange
  parting : Parting
  deriving Repr

namespace Conversation

/-- The prompt of a question, as it is shown. -/
def promptOf (response : Response) : Text :=
  (response.trace.getLast?.map Step.description).getD ""

/-- The exchanges of a reply, before the program runs on. -/
def asking (reply : Reply) (response : Response) : List Exchange :=
  if reply.typed then [.asked (promptOf response)] else []

/-- Answers the questions of a program from a response on. When the replies are
    used up, a question is asked in vain if there is anyone to ask. -/
def goOn [CharacterNames] (limits : Limits) (code : List Char) (asks : Bool) :
    List Reply → Response → Conversation
  | replies, response =>
    match response.continuation? with
    | none => ⟨[], .settled⟩
    | some place =>
      match replies with
      | [] => if asks then ⟨[.asked (promptOf response)], .unanswered⟩ else ⟨[], .settled⟩
      | reply :: rest =>
        match run limits code place.scope place.start (some ⟨place.target, reply.text⟩) with
        | .error abort => ⟨asking reply response, .aborted abort⟩
        | .ok next =>
          let later := goOn limits code asks rest next
          { later with exchanges := asking reply response ++ .ran next :: later.exchanges }

/-- Runs a program with answers given in advance and, where there is anyone to
    ask, the replies that are typed after them. -/
def hold [CharacterNames] (limits : Limits) (code : List Char) (answers : List Text)
    (typed : Option (List Text)) : Conversation :=
  let replies := answers.map (⟨·, false⟩) ++ (typed.getD []).map (⟨·, true⟩)
  match run limits code [] 0 none with
  | .error abort => ⟨[], .aborted abort⟩
  | .ok first =>
    let later := goOn limits code typed.isSome replies first
    { later with exchanges := .ran first :: later.exchanges }

/-- The responses of the runs. -/
def responses (conversation : Conversation) : List Response :=
  conversation.exchanges.filterMap fun
    | .ran response => some response
    | .asked _ => none

/-- The questions that were asked. -/
def prompts (conversation : Conversation) : List Text :=
  conversation.exchanges.filterMap fun
    | .ran _ => none
    | .asked prompt => some prompt

/-- The runs as one: all steps in order, and the fault of the last run. -/
def response (conversation : Conversation) : Response :=
  { trace := conversation.responses.flatMap Response.trace
    error := conversation.responses.getLast?.bind Response.error }

end Conversation

end StepTrace
