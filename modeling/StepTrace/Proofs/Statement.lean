import StepTrace.Outline

/-!
# Lines that read as a statement

The variable of a loop is named by the token after the word `for`, and a line without tokens is
no statement. So every line that reads as one counts in the outline of its program.
-/

namespace StepTrace

namespace Statement

variable {line : List Char} {stop : Nat} {tokens : List Token} {statement : Statement}

theorem expectName_eq_ok {name : String} {rest : List Token} :
    expectName stop tokens = .ok (name, rest) ↔ ∃ column, tokens = ⟨.name name, column⟩ :: rest := by
  unfold expectName
  constructor
  · intro expected
    split at expected
    · cases expected
      exact ⟨_, rfl⟩
    · cases expected
  · rintro ⟨column, rfl⟩
    rfl

/-- A blank line or a comment reads as nothing. -/
theorem ofLine_of_no_tokens [CharacterNames] (stop : Nat)
    (empty : Tokens.ofLine line = .ok ⟨[], stop⟩) : ofLine line ≠ .ok statement := by
  intro reads
  rw [ofLine, empty] at reads
  cases reads

end Statement

/-- A line that reads as a statement does something. -/
theorem active_of_reads [CharacterNames] {line : Line} {statement : Statement}
    (reads : Statement.ofLine line.content = .ok statement) : line.isInert = false := by
  unfold Line.isInert Line.isBlank
  cases content : line.content with
  | nil =>
    rw [content] at reads
    exact absurd reads (Statement.ofLine_of_no_tokens 1 (by simp [Tokens.ofLine, Except.map]))
  | cons c rest =>
    have starts : c ≠ '#' := by
      rintro rfl
      rw [content] at reads
      exact Statement.ofLine_of_no_tokens (rest.length + 2)
        (by simp [Tokens.ofLine, Except.map]) reads
    simp [starts]

end StepTrace
