import StepTrace.Outline

/-!
# Blocks and outlines

Blank lines change no block and no outline, so the outline of a block is that of the
lines it was taken from. A block ends where the blocks inside it end at the latest.
-/

namespace StepTrace

variable {indent : Nat} {lines : List Line}

/-- Induction along the outline of lines: a line does nothing, or it is the header of a loop
    and has a block after it, or it stands for itself. -/
@[elab_as_elim]
theorem outline_induction [CharacterNames] {motive : List Line → Prop} (lines : List Line)
    (nil : motive [])
    (inert : ∀ line rest, line.isInert = true → motive rest → motive (line :: rest))
    (loop : ∀ line rest var count text, line.isInert = false →
      Statement.ofLine line.content = .ok (.loop var count text) →
        motive (Source.block line.indent rest) → motive (Source.afterBlock line.indent rest) →
          motive (line :: rest))
    (single : ∀ line rest, line.isInert = false →
      (∀ var count text, Statement.ofLine line.content ≠ .ok (.loop var count text)) →
        motive rest → motive (line :: rest)) : motive lines := by
  match lines with
  | [] => exact nil
  | line :: rest =>
    by_cases passive : line.isInert = true
    · exact inert line rest passive (outline_induction rest nil inert loop single)
    · have active : line.isInert = false := by simpa using passive
      by_cases header : ∃ var count text, Statement.ofLine line.content = .ok (.loop var count text)
      · obtain ⟨var, count, text, reads⟩ := header
        exact loop line rest var count text active reads
          (outline_induction (Source.block line.indent rest) nil inert loop single)
          (outline_induction (Source.afterBlock line.indent rest) nil inert loop single)
      · exact single line rest active (fun var count text reads => header ⟨var, count, text, reads⟩)
          (outline_induction rest nil inert loop single)
termination_by lines.length
decreasing_by
  · simp
  · have := Source.length_block_le line.indent rest
    simp only [List.length_cons]
    omega
  · have := Source.length_afterBlock_le line.indent rest
    simp only [List.length_cons]
    omega
  · simp

namespace Source

private theorem continues_of_blank (indent : Nat) :
    (fun line : Line => !(!line.isBlank) || continues indent line) = continues indent := by
  funext line
  cases blank : line.isBlank <;> simp [continues, blank]

theorem block_sublist : (block indent lines).Sublist lines :=
  List.filter_sublist.trans (List.takeWhile_sublist _)

theorem afterBlock_sublist : (afterBlock indent lines).Sublist lines := List.dropWhile_sublist _

theorem takeWhile_append_afterBlock (indent : Nat) (lines : List Line) :
    lines.takeWhile (continues indent) ++ afterBlock indent lines = lines :=
  List.takeWhile_append_dropWhile

/-- A block is the same without the blank lines around it. -/
theorem block_filter : block indent (lines.filter (!·.isBlank)) = block indent lines := by
  simp only [block, List.takeWhile_filter, continues_of_blank, List.filter_filter, Bool.and_self]

/-- What follows a block has lost the blank lines that were taken away before. -/
theorem afterBlock_filter :
    afterBlock indent (lines.filter (!·.isBlank)) = (afterBlock indent lines).filter (!·.isBlank) := by
  simp only [afterBlock, List.dropWhile_filter, continues_of_blank]

/-- The line after a block is not blank and not indented deeper than the header. -/
theorem not_continues_of_head {first : Line}
    (next : (lines.dropWhile (continues indent)).head? = some first) :
    continues indent first = false := by
  have stops := List.head?_dropWhile_not (continues indent) lines
  rw [next] at stops
  simpa using stops

end Source

/-- A line that does something is not blank. -/
theorem isBlank_of_active {line : Line} (active : line.isInert = false) : line.isBlank = false := by
  simp only [Line.isInert, Bool.or_eq_false_iff] at active
  exact active.1

/-- Blank lines are no part of an outline. -/
theorem outline_filter [CharacterNames] (lines : List Line) :
    outline (lines.filter (!·.isBlank)) = outline lines := by
  induction lines using outline_induction with
  | nil => rfl
  | inert line rest inert ih =>
    rw [outline_inert rest inert]
    by_cases blank : line.isBlank = true
    · rw [List.filter_cons_of_neg (by simp [blank]), ih]
    · rw [List.filter_cons_of_pos (by simp [blank]), outline_inert _ inert, ih]
  | loop line rest var count text active reads _ ih =>
    rw [List.filter_cons_of_pos (by simp [isBlank_of_active active]), outline_loop _ active reads,
      outline_loop _ active reads, Source.block_filter, Source.afterBlock_filter, ih]
  | single line rest active single ih =>
    rw [List.filter_cons_of_pos (by simp [isBlank_of_active active]), outline_line _ active single,
      outline_line _ active single, ih]

/-- The outline of a block is that of the lines up to its end. -/
theorem outline_block [CharacterNames] (indent : Nat) (lines : List Line) :
    outline (Source.block indent lines) = outline (lines.takeWhile (Source.continues indent)) :=
  outline_filter _

end StepTrace
