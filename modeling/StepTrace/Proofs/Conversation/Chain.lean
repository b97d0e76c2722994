import Mathlib.Data.List.Chain
import StepTrace.Conversation

/-!
# The runs of a conversation

The responses of a conversation form a chain: the first one is that of a run from the
first line on, and each of the others takes the one before it up with an answer.
-/

namespace StepTrace

variable {limits : Limits} {code : List Char} {response next : Response} {place : Continuation}

/-- A run that takes a paused one up with an answer to its question. -/
def Resumes [CharacterNames] (limits : Limits) (code : List Char) (paused next : Response) : Prop :=
  ∃ place text, paused.continuation? = some place ∧
    run limits code place.scope place.start (some ⟨place.target, text⟩) = .ok next

namespace Conversation

theorem responses_asking (reply : Reply) (response : Response) (parting : Parting)
    (later : List Exchange) :
    responses ⟨asking reply response ++ later, parting⟩ = responses ⟨later, parting⟩ := by
  unfold asking responses
  by_cases typed : reply.typed = true <;> simp [typed]

theorem responses_ran (response : Response) (parting : Parting) (later : List Exchange) :
    responses ⟨.ran response :: later, parting⟩ = response :: responses ⟨later, parting⟩ := rfl

theorem responses_asking_nil (reply : Reply) (response : Response) (parting : Parting) :
    responses ⟨asking reply response, parting⟩ = [] := by
  have alone := responses_asking reply response parting []
  rwa [List.append_nil] at alone

/-! ## One reply -/

theorem goOn_of_stopped [CharacterNames] (asks : Bool) (replies : List Reply)
    (stopped : response.continuation? = none) :
    goOn limits code asks replies response = ⟨[], .settled⟩ := by
  unfold goOn
  rw [stopped]

theorem goOn_nil [CharacterNames] (asks : Bool) (goesOn : response.continuation? = some place) :
    goOn limits code asks [] response =
      if asks then ⟨[.asked (promptOf response)], .unanswered⟩ else ⟨[], .settled⟩ := by
  unfold goOn
  rw [goesOn]

theorem goOn_of_aborted [CharacterNames] {abort : Abort} (asks : Bool) (reply : Reply)
    (replies : List Reply) (goesOn : response.continuation? = some place)
    (aborts : run limits code place.scope place.start (some ⟨place.target, reply.text⟩) =
      .error abort) :
    goOn limits code asks (reply :: replies) response =
      ⟨asking reply response, .aborted abort⟩ := by
  rw [goOn, goesOn]
  simp only [aborts]

theorem goOn_of_resumed [CharacterNames] (asks : Bool) (reply : Reply) (replies : List Reply)
    (goesOn : response.continuation? = some place)
    (returns : run limits code place.scope place.start (some ⟨place.target, reply.text⟩) = .ok next) :
    goOn limits code asks (reply :: replies) response =
      { goOn limits code asks replies next with
        exchanges := asking reply response ++ .ran next ::
          (goOn limits code asks replies next).exchanges } := by
  rw [goOn, goesOn]
  simp only [returns]

theorem responses_goOn_nil [CharacterNames] (limits : Limits) (code : List Char) (asks : Bool)
    (response : Response) : (goOn limits code asks [] response).responses = [] := by
  cases goesOn : response.continuation? with
  | none =>
    rw [goOn_of_stopped _ _ goesOn]
    rfl
  | some place =>
    rw [goOn_nil _ goesOn]
    cases asks <;> rfl

/-! ## All runs -/

/-- Each reply takes the run before it up. By induction on the replies, which the
    conversation uses one by one. -/
theorem goOn_chain [CharacterNames] (limits : Limits) (code : List Char) (asks : Bool)
    (replies : List Reply) (response : Response) :
    (response :: (goOn limits code asks replies response).responses).IsChain
      (Resumes limits code) := by
  induction replies generalizing response with
  | nil =>
    rw [responses_goOn_nil]
    exact .singleton response
  | cons reply rest ih =>
    cases goesOn : response.continuation? with
    | none =>
      rw [goOn_of_stopped _ _ goesOn]
      exact .singleton response
    | some place =>
      cases returned :
          run limits code place.scope place.start (some ⟨place.target, reply.text⟩) with
      | error abort =>
        rw [goOn_of_aborted asks reply rest goesOn returned, responses_asking_nil]
        exact .singleton response
      | ok next =>
        rw [goOn_of_resumed asks reply rest goesOn returned, responses_asking, responses_ran]
        exact .cons_cons ⟨place, reply.text, goesOn, returned⟩ (ih next)

/-- The runs of a conversation whose first one comes about. -/
theorem responses_chain [CharacterNames] {answers : List Text} {typed : Option (List Text)}
    (settled : (hold limits code answers typed).parting = .settled) :
    ∃ first rest, (hold limits code answers typed).responses = first :: rest ∧
      run limits code [] 0 none = .ok first ∧ (first :: rest).IsChain (Resumes limits code) := by
  unfold hold at settled ⊢
  cases returned : run limits code [] 0 none with
  | error abort => simp [returned] at settled
  | ok first => exact ⟨first, _, rfl, rfl, goOn_chain limits code _ _ first⟩

end Conversation

end StepTrace
