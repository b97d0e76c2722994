import Mathlib.Data.Finset.Max
import Mathlib.Data.List.TakeWhile
import StepTrace.Proofs.Source
import StepTrace.Proofs.Statement

/-!
# Nested blocks

Which loops a line stands in. The loops of some lines are those of the lines up to the end of a
block and those of the lines after it (`splits_loop`), so that each part can be looked at alone.
-/

namespace StepTrace

/-- The line stands in the block of a loop that begins with a header among the lines. -/
def Governs [CharacterNames] (lines : List Line) (header line : Line) : Prop :=
  ∃ outer rest, lines = outer ++ header :: rest ∧ header.IsHeader ∧
    line ∈ Source.block header.indent rest

/-- Of the loops around a line, the header begins the last one. -/
def Innermost [CharacterNames] (lines : List Line) (header line : Line) : Prop :=
  Governs lines header line ∧ ∀ other, Governs lines other line → other.number ≤ header.number

/-- The lines are numbered in their order. -/
def Ordered (lines : List Line) : Prop := lines.Pairwise fun line later => line.number < later.number

variable {lines part tail rest : List Line} {header line first : Line} {indent : Nat}

theorem Line.IsHeader.isInert [CharacterNames] (isHeader : line.IsHeader) : line.isInert = false :=
    by
  obtain ⟨var, count, text, reads⟩ := isHeader
  exact active_of_reads reads

theorem Line.IsHeader.isBlank [CharacterNames] (isHeader : line.IsHeader) : line.isBlank = false :=
  isBlank_of_active isHeader.isInert

/-! ## Blocks -/

theorem Source.mem_block : line ∈ block indent lines ↔
    line ∈ lines.takeWhile (continues indent) ∧ line.isBlank = false := by
  simp [block]

theorem Source.lt_indent_of_mem_block (inside : line ∈ block indent lines) :
    indent < line.indent := by
  obtain ⟨taken, visible⟩ := mem_block.mp inside
  have goesOn : continues indent line = true := List.mem_takeWhile_imp taken
  simpa [continues, visible] using goesOn

namespace Governs

theorem header_mem [CharacterNames] (governs : Governs lines header line) : header ∈ lines := by
  obtain ⟨outer, rest, rfl, -⟩ := governs
  simp

theorem line_mem [CharacterNames] (governs : Governs lines header line) : line ∈ lines := by
  obtain ⟨outer, rest, rfl, -, inside⟩ := governs
  have later : line ∈ rest := Source.block_sublist.subset inside
  simp [later]

end Governs

theorem not_governs_nil [CharacterNames] : ¬ Governs [] header line := fun governs => by
  cases governs.header_mem

theorem governs_cons [CharacterNames] : Governs (first :: rest) header line ↔
    header = first ∧ first.IsHeader ∧ line ∈ Source.block first.indent rest ∨
      Governs rest header line := by
  constructor
  · rintro ⟨outer, later, whole, isHeader, inside⟩
    rcases List.cons_eq_append_iff.mp whole with ⟨rfl, same⟩ | ⟨others, rfl, rfl⟩
    · cases same
      exact .inl ⟨rfl, isHeader, inside⟩
    · exact .inr ⟨others, later, rfl, isHeader, inside⟩
  · rintro (⟨rfl, isHeader, inside⟩ | ⟨outer, later, rfl, isHeader, inside⟩)
    · exact ⟨[], rest, rfl, isHeader, inside⟩
    · exact ⟨first :: outer, later, rfl, isHeader, inside⟩

theorem governs_cons_of_not_isHeader [CharacterNames] (plain : ¬ first.IsHeader) :
    Governs (first :: rest) header line ↔ Governs rest header line := by
  rw [governs_cons]
  exact or_iff_right fun governs => plain governs.2.1

/-- Blank lines begin no loop and stand in none. -/
theorem governs_filter [CharacterNames] : Governs (lines.filter (!·.isBlank)) header line ↔
    Governs lines header line := by
  induction lines with
  | nil => rfl
  | cons first rest ih =>
    cases blank : first.isBlank with
    | true =>
      have plain : ¬ first.IsHeader := fun isHeader => by simp [isHeader.isBlank] at blank
      rw [List.filter_cons_of_neg (by simp [blank]), ih, governs_cons_of_not_isHeader plain]
    | false =>
      rw [List.filter_cons_of_pos (by simp [blank]), governs_cons, governs_cons, ih,
        Source.block_filter]

/-- Where the blocks of a part end before the next part, each line stands in loops of its own
    part alone. -/
theorem governs_append [CharacterNames]
    (ended : ∀ outer header rest, part = outer ++ header :: rest → header.IsHeader →
      Source.Ended header.indent rest tail) :
    Governs (part ++ tail) header line ↔ Governs part header line ∨ Governs tail header line := by
  induction part with
  | nil => simp [not_governs_nil]
  | cons first rest ih =>
    have inner : ∀ outer header later, rest = outer ++ header :: later → header.IsHeader →
        Source.Ended header.indent later tail := by
      rintro outer header later rfl
      exact ended (first :: outer) header later rfl
    rw [List.cons_append, governs_cons, governs_cons, ih inner, or_assoc]
    refine or_congr_left (and_congr_right fun _ => and_congr_right fun isHeader => ?_)
    rw [Source.block_append (ended [] first rest rfl isHeader)]

/-- A line that stands in a loop stands in a last one. -/
theorem Governs.innermost [CharacterNames] (governs : Governs lines header line) :
    ∃ last, Innermost lines last line := by
  classical
  have member : ∀ other, other ∈ lines.toFinset.filter (Governs lines · line) ↔
      Governs lines other line := by
    intro other
    rw [Finset.mem_filter, List.mem_toFinset]
    exact and_iff_right_of_imp Governs.header_mem
  obtain ⟨last, found, greatest⟩ :=
    Finset.exists_max_image _ Line.number ⟨header, (member header).mpr governs⟩
  exact ⟨last, (member last).mp found, fun other around => greatest other ((member other).mpr around)⟩

/-! ## Order -/

theorem Ordered.cons (ordered : Ordered (first :: rest)) :
    (∀ line ∈ rest, first.number < line.number) ∧ Ordered rest :=
  List.pairwise_cons.mp ordered

theorem Ordered.sublist (ordered : Ordered lines) (smaller : part.Sublist lines) : Ordered part :=
  List.Pairwise.sublist smaller ordered

theorem Ordered.not_governs_first [CharacterNames] (ordered : Ordered (first :: rest)) :
    ¬ Governs (first :: rest) header first := by
  intro governs
  have later : first ∈ rest := by
    rcases governs_cons.mp governs with ⟨-, -, inside⟩ | within
    · exact Source.block_sublist.subset inside
    · exact within.line_mem
  exact absurd (ordered.cons.1 first later) (Nat.lt_irrefl _)

theorem ordered_linesFrom (number : Nat) (texts : List (List Char)) :
    Ordered (Source.linesFrom number texts) := by
  induction texts generalizing number with
  | nil => exact List.Pairwise.nil
  | cons text rest ih =>
    refine List.pairwise_cons.mpr ⟨fun line member => ?_, ih (number + 1)⟩
    exact Source.le_number_of_mem_linesFrom member

theorem ordered_lines (code : List Char) : Ordered (Source.lines code) := by
  rw [Source.lines_eq_linesFrom]
  exact ordered_linesFrom 1 _

/-! ## Parts -/

/-- Lines in two parts, with each loop in one of them. Lines that do nothing may be missing. -/
structure Splits [CharacterNames] (lines front back : List Line) : Prop where
  mem : ∀ line, line.isInert = false → (line ∈ lines ↔ line ∈ front ∨ line ∈ back)
  governs : ∀ header line,
    Governs lines header line ↔ Governs front header line ∨ Governs back header line
  apart : ∀ line ∈ front, ∀ other ∈ back, line.number ≠ other.number

namespace Splits

variable {front back : List Line}

theorem symm [CharacterNames] (splits : Splits lines front back) : Splits lines back front where
  mem := fun line active => (splits.mem line active).trans or_comm
  governs := fun header line => (splits.governs header line).trans or_comm
  apart := fun line inBack other inFront => (splits.apart other inFront line inBack).symm

theorem governs_iff [CharacterNames] (splits : Splits lines front back) (member : line ∈ front) :
    Governs lines header line ↔ Governs front header line := by
  rw [splits.governs]
  exact or_iff_left fun governs => splits.apart line member line governs.line_mem rfl

theorem innermost [CharacterNames] (splits : Splits lines front back)
    (innermost : Innermost front header line) : Innermost lines header line := by
  have member := innermost.1.line_mem
  refine ⟨(splits.governs_iff member).mpr innermost.1, fun other governs => ?_⟩
  exact innermost.2 other ((splits.governs_iff member).mp governs)

end Splits

theorem splits_line [CharacterNames] (ordered : Ordered (first :: rest))
    (plain : ¬ first.IsHeader) : Splits (first :: rest) [first] rest where
  mem := by simp
  governs := by
    intro header line
    rw [governs_cons_of_not_isHeader plain, governs_cons_of_not_isHeader plain]
    simp [not_governs_nil]
  apart := by
    intro line same other later
    obtain rfl := List.mem_singleton.mp same
    exact Nat.ne_of_lt (ordered.cons.1 other later)

/-! ## Loops -/

theorem Source.block_block : block indent (block indent lines) = block indent lines := by
  rw [block.eq_def indent lines, block_filter, block, List.takeWhile_takeWhile]
  simp

/-- The blocks inside a block end where it ends. -/
theorem ended_in_block {outer : List Line}
    (taken : lines.takeWhile (Source.continues indent) = outer ++ header :: rest)
    (visible : header.isBlank = false) :
    Source.Ended header.indent rest (Source.afterBlock indent lines) := by
  intro _ next head
  have inside : header ∈ Source.block indent lines :=
    Source.mem_block.mpr ⟨by simp [taken], visible⟩
  have deeper := Source.lt_indent_of_mem_block inside
  have outside : Source.continues indent next = false := Source.not_continues_of_head head
  simp only [Source.continues, Bool.or_eq_false_iff, decide_eq_false_iff_not] at outside ⊢
  exact ⟨outside.1, by omega⟩

/-- The loops of some lines are in the block that they begin with or after it. -/
theorem governs_block_or_afterBlock [CharacterNames] (indent : Nat) (lines : List Line) :
    Governs lines header line ↔ Governs (Source.block indent lines) header line ∨
      Governs (Source.afterBlock indent lines) header line := by
  have ended : ∀ outer header rest,
      lines.takeWhile (Source.continues indent) = outer ++ header :: rest → header.IsHeader →
        Source.Ended header.indent rest (Source.afterBlock indent lines) :=
    fun outer header rest taken isHeader => ended_in_block taken isHeader.isBlank
  rw [Source.block, governs_filter, ← governs_append ended, Source.takeWhile_append_afterBlock]

/-- A loop comes before the lines after its block. -/
theorem splits_loop [CharacterNames] (ordered : Ordered (first :: rest))
    (isHeader : first.IsHeader) : Splits (first :: rest) (first :: Source.block first.indent rest)
      (Source.afterBlock first.indent rest) where
  mem := by
    intro line active
    have taken : line ∈ Source.block first.indent rest ↔
        line ∈ rest.takeWhile (Source.continues first.indent) := by
      rw [Source.mem_block]
      exact and_iff_left (isBlank_of_active active)
    rw [List.mem_cons, List.mem_cons, or_assoc, taken, ← List.mem_append,
      Source.takeWhile_append_afterBlock]
  governs := by
    intro header line
    rw [governs_cons, governs_cons, Source.block_block, or_assoc,
      governs_block_or_afterBlock first.indent rest]
  apart := by
    intro line inFront other after
    rcases List.mem_cons.mp inFront with rfl | inside
    · exact Nat.ne_of_lt (ordered.cons.1 other (Source.afterBlock_sublist.subset after))
    · have later := ordered.cons.2
      rw [← Source.takeWhile_append_afterBlock first.indent rest] at later
      exact Nat.ne_of_lt
        ((List.pairwise_append.mp later).2.2 line (Source.mem_block.mp inside).1 other after)

/-- A line that stands in no loop of a block stands in that of the block alone. -/
theorem innermost_first [CharacterNames] (isHeader : first.IsHeader)
    (inside : line ∈ Source.block first.indent rest)
    (free : ∀ header, ¬ Governs (Source.block first.indent rest) header line) :
    Innermost (first :: Source.block first.indent rest) first line := by
  refine ⟨governs_cons.mpr (.inl ⟨rfl, isHeader, by rwa [Source.block_block]⟩), ?_⟩
  intro other around
  rcases governs_cons.mp around with ⟨rfl, -⟩ | within
  · exact Nat.le_refl _
  · exact absurd within (free other)

theorem Innermost.cons [CharacterNames] (ordered : Ordered (first :: rest))
    (innermost : Innermost rest header line) : Innermost (first :: rest) header line := by
  refine ⟨governs_cons.mpr (.inr innermost.1), fun other around => ?_⟩
  rcases governs_cons.mp around with ⟨rfl, -⟩ | within
  · exact Nat.le_of_lt (ordered.cons.1 header innermost.1.header_mem)
  · exact innermost.2 other within

end StepTrace
