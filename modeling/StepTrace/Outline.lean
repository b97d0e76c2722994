import StepTrace.Source
import StepTrace.Statement

/-!
# Outlines

The structure of a program that a run follows: its lines in order, each with what
it reads as and, for the header of a loop, with the outline of its block. A line
that cannot be read keeps its failure, which counts only when the line is reached.
-/

namespace StepTrace

/-- A line that does something, with the items of the block it governs. -/
inductive Item where
  /-- An item by the number of its line, what the line reads as, and its block. -/
  | mk (line : Nat) (reading : Except Failure Statement) (body : List Item)

namespace Item

/-- The number of the item's line. -/
def line : Item → Nat
  | mk line _ _ => line

/-- What the item's line reads as. -/
def reading : Item → Except Failure Statement
  | mk _ reading _ => reading

/-- The items of the block that the item governs. -/
def body : Item → List Item
  | mk _ _ body => body

end Item

/-- The outline of some lines. Lines that do nothing have no item; the lines of a
    block are outlined under their header. -/
def outline [CharacterNames] : List Line → List Item
  | [] => []
  | line :: rest =>
    if line.isInert then outline rest
    else
      match Statement.ofLine line.content with
      | .ok (.loop var count text) =>
        .mk line.number (.ok (.loop var count text))
            (outline (Source.block line.indent rest)) ::
          outline (Source.afterBlock line.indent rest)
      | reading => .mk line.number reading [] :: outline rest
termination_by lines => lines.length
decreasing_by
  · simp
  · have := Source.length_block_le line.indent rest
    simp only [List.length_cons]
    omega
  · have := Source.length_afterBlock_le line.indent rest
    simp only [List.length_cons]
    omega
  · simp

/-! ## The items of the first line -/

@[simp] theorem outline_nil [CharacterNames] : outline [] = [] := by rw [outline]

/-- A line that does nothing has no item. -/
theorem outline_inert [CharacterNames] {line : Line} (rest : List Line)
    (inert : line.isInert = true) : outline (line :: rest) = outline rest := by
  rw [outline, if_pos inert]

/-- The header of a loop takes its block with it. -/
theorem outline_loop [CharacterNames] {line : Line} (rest : List Line) {var : String} {count : Expr}
    {text : List Char} (active : line.isInert = false)
    (reads : Statement.ofLine line.content = .ok (.loop var count text)) :
    outline (line :: rest) =
      .mk line.number (.ok (.loop var count text)) (outline (Source.block line.indent rest)) ::
        outline (Source.afterBlock line.indent rest) := by
  rw [outline, if_neg (by simp [active]), reads]

/-- Any other line is an item of its own. -/
theorem outline_line [CharacterNames] {line : Line} (rest : List Line)
    (active : line.isInert = false)
    (single : ∀ var count text, Statement.ofLine line.content ≠ .ok (.loop var count text)) :
    outline (line :: rest) =
      .mk line.number (Statement.ofLine line.content) [] :: outline rest := by
  rw [outline, if_neg (by simp [active])]
  split
  · next reads => exact absurd reads (single _ _ _)
  · rfl

end StepTrace
