import StepTrace.Run

/-!
# Sessions

Runs that follow one another under limits that may change: a program is run, and
while it is paused it is resumed with an answer, perhaps after it was edited.
-/

namespace StepTrace

/-- What one run leaves for the next. -/
structure Session where
  limits : Limits
  code : List Char
  current : Option Response
  deriving Repr

namespace Session

/-- A session before its first run. -/
def start (limits : Limits) : Session := ⟨limits, [], none⟩

/-- Runs a program afresh. Without a run there is nothing to resume. -/
def run [CharacterNames] (session : Session) (code : List Char) (scope : Scope) (start : Int)
    (answer : Option Answer) : Except Abort Response × Session :=
  let result := StepTrace.run session.limits code scope start answer
  (result, { session with code, current := result.toOption })

/-- Where the current response goes on, if it is paused. -/
def place? (session : Session) : Option Continuation :=
  session.current.bind Response.continuation?

/-- Resumes the paused program with the text of an answer, for the variable that
    was asked for or another one, and in its old form or an edited one. Nothing
    comes of it when no program is paused; when no run comes about, the program
    can still be resumed. -/
def resume [CharacterNames] (session : Session) (text : Text) (target : Option String)
    (edited : Option (List Char)) : Option (Except Abort Response) × Session :=
  match session.place? with
  | none => (none, session)
  | some place =>
    let code := edited.getD session.code
    let answer := ⟨target.getD place.target, text⟩
    match StepTrace.run session.limits code place.scope place.start (some answer) with
    | .ok response => (some (.ok response), { session with code, current := some response })
    | .error abort => (some (.error abort), { session with code })

end Session

end StepTrace
