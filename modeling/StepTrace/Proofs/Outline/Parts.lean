import StepTrace.Proofs.Outline

/-!
# Outlines in parts

The outline of lines one after the other is that of the first part followed by that of the
second, unless the second part begins inside a loop of the first (`outline_append`). Blank
lines are inside a loop or outside of it as the line after them is. The
numbers of the lines have no part in where a block ends.
-/

namespace StepTrace

/-- A line that begins a loop. -/
def Line.IsHeader [CharacterNames] (line : Line) : Prop :=
  ∃ var count text, Statement.ofLine line.content = .ok (.loop var count text)

instance [CharacterNames] (line : Line) : Decidable line.IsHeader :=
  match reads : Statement.ofLine line.content with
  | .ok (.loop var count text) => isTrue ⟨var, count, text, reads⟩
  | .ok (.question _ _) | .ok (.assignment _ _) | .ok (.print _) | .error _ =>
    isFalse (by simp [Line.IsHeader, reads])

/-- A line that comes after some lines stands in the block of a loop that begins among them. -/
def Inside [CharacterNames] (before : List Line) (line : Line) : Prop :=
  ∃ outer header inner, before = outer ++ header :: inner ∧ header.IsHeader ∧
    ∀ other ∈ inner ++ [line], Source.continues header.indent other = true

variable {part tail rest : List Line} {line header : Line} {indent : Nat}

theorem not_inside_nil [CharacterNames] : ¬ Inside [] line := by
  rintro ⟨outer, header, inner, whole, -⟩
  simp at whole

theorem inside_cons_iff [CharacterNames] : Inside (header :: rest) line ↔
    (header.IsHeader ∧ ∀ other ∈ rest ++ [line], Source.continues header.indent other = true) ∨
      Inside rest line := by
  constructor
  · rintro ⟨outer, first, inner, whole, isHeader, continues⟩
    rcases List.cons_eq_append_iff.mp whole with ⟨rfl, same⟩ | ⟨others, rfl, rfl⟩
    · cases same
      exact .inl ⟨isHeader, continues⟩
    · exact .inr ⟨others, first, inner, rfl, isHeader, continues⟩
  · rintro (⟨isHeader, continues⟩ | ⟨outer, first, inner, rfl, isHeader, continues⟩)
    · exact ⟨[], header, rest, rfl, isHeader, continues⟩
    · exact ⟨header :: outer, first, inner, rfl, isHeader, continues⟩

instance Inside.decidable [CharacterNames] :
    (before : List Line) → (line : Line) → Decidable (Inside before line)
  | [], _ => isFalse not_inside_nil
  | _ :: rest, line =>
    have := Inside.decidable rest line
    decidable_of_iff _ inside_cons_iff.symm

/-- A line that is indented no deeper than another is inside no more loops. -/
theorem Inside.of_shallower [CharacterNames] {other : Line} (inside : Inside part line)
    (visible : line.isBlank = false) (shallower : line.indent ≤ other.indent) :
    Inside part other := by
  obtain ⟨outer, header, inner, rfl, isHeader, continues⟩ := inside
  refine ⟨outer, header, inner, rfl, isHeader, fun next member => ?_⟩
  rcases List.mem_append.mp member with between | last
  · exact continues next (List.mem_append_left _ between)
  · obtain rfl := List.mem_singleton.mp last
    have deeper := continues line (List.mem_append_right _ List.mem_cons_self)
    simp only [Source.continues, visible, Bool.false_or, decide_eq_true_eq] at deeper
    simp only [Source.continues, Bool.or_eq_true, decide_eq_true_eq]
    omega

/-- A loop that begins in some lines begins in more of them. -/
theorem Inside.append_left [CharacterNames] (inside : Inside part line) (front : List Line) :
    Inside (front ++ part) line := by
  obtain ⟨outer, header, inner, rfl, isHeader, continues⟩ := inside
  exact ⟨front ++ outer, header, inner, by simp, isHeader, continues⟩

/-! ## Blocks at the end of a part -/

namespace Source

/-- The next part begins outside the block of a header before the first part. -/
def Ended (indent : Nat) (part tail : List Line) : Prop :=
  (∀ other ∈ part, continues indent other = true) → ∀ next ∈ tail.head?, continues indent next = false

theorem Ended.after_line (ended : Ended indent (line :: part) tail)
    (goesOn : continues indent line = true) : Ended indent part tail := by
  intro all
  refine ended fun other member => ?_
  rcases List.mem_cons.mp member with rfl | later
  · exact goesOn
  · exact all other later

theorem takeWhile_append_of_ended (ended : Ended indent part tail) :
    (part ++ tail).takeWhile (continues indent) = part.takeWhile (continues indent) := by
  induction part with
  | nil =>
    cases tail with
    | nil => rfl
    | cons next others => simp [ended (by simp) next rfl]
  | cons line rest ih =>
    by_cases goesOn : continues indent line = true
    · simp [goesOn, ih (ended.after_line goesOn)]
    · simp [goesOn]

theorem afterBlock_append (ended : Ended indent part tail) :
    afterBlock indent (part ++ tail) = afterBlock indent part ++ tail := by
  have whole := takeWhile_append_afterBlock indent (part ++ tail)
  rw [takeWhile_append_of_ended ended] at whole
  refine (List.append_right_inj (part.takeWhile (continues indent))).mp ?_
  rw [whole, ← List.append_assoc, takeWhile_append_afterBlock]

theorem block_append (ended : Ended indent part tail) :
    block indent (part ++ tail) = block indent part := by
  rw [block, block, takeWhile_append_of_ended ended]

end Source

/-- What begins outside the loops of a part begins outside the block of its first header. -/
theorem ended_of_not_inside [CharacterNames] (isHeader : line.IsHeader)
    (outside : ∀ next ∈ tail.head?, ¬ Inside (line :: rest) next) :
    Source.Ended line.indent rest tail := by
  intro all next first
  refine Bool.eq_false_iff.mpr fun goesOn => outside next first ?_
  refine ⟨[], line, rest, rfl, isHeader, fun other member => ?_⟩
  rcases List.mem_append.mp member with between | last
  · exact all other between
  · obtain rfl := List.mem_singleton.mp last
    exact goesOn

private theorem not_inside_of_suffix [CharacterNames] {smaller : List Line}
    (outside : ∀ next ∈ tail.head?, ¬ Inside part next)
    (suffix : ∃ front, part = front ++ smaller) : ∀ next ∈ tail.head?, ¬ Inside smaller next := by
  intro next first inside
  obtain ⟨front, rfl⟩ := suffix
  exact outside next first (inside.append_left front)

private theorem outline_append_of_head [CharacterNames]
    (outside : ∀ next ∈ tail.head?, ¬ Inside part next) :
    outline (part ++ tail) = outline part ++ outline tail := by
  induction part using outline_induction with
  | nil => simp
  | inert line rest inert ih =>
    rw [List.cons_append, outline_inert _ inert, outline_inert _ inert,
      ih (not_inside_of_suffix outside ⟨[line], rfl⟩)]
  | loop line rest var count text active reads _ ih =>
    have ended := ended_of_not_inside ⟨var, count, text, reads⟩ outside
    have suffix : ∃ front, line :: rest = front ++ Source.afterBlock line.indent rest :=
      ⟨line :: rest.takeWhile (Source.continues line.indent), by
        rw [List.cons_append, Source.takeWhile_append_afterBlock]⟩
    rw [List.cons_append, outline_loop _ active reads, outline_loop _ active reads,
      Source.block_append ended, Source.afterBlock_append ended,
      ih (not_inside_of_suffix outside suffix), List.cons_append]
  | single line rest active single ih =>
    rw [List.cons_append, outline_line _ active single, outline_line _ active single,
      ih (not_inside_of_suffix outside ⟨[line], rfl⟩), List.cons_append]

/-- The first of some lines that is not blank. -/
def Source.firstVisible? (lines : List Line) : Option Line := lines.find? fun line => !line.isBlank

theorem Source.firstVisible?_cons (visible : line.isBlank = false) :
    Source.firstVisible? (line :: rest) = some line := by
  simp [Source.firstVisible?, visible]

/-- Blank lines keep no line inside a loop, and take none out. -/
theorem Inside.of_filter [CharacterNames] (inside : Inside (part.filter (!·.isBlank)) line) :
    Inside part line := by
  obtain ⟨outer, header, inner, whole, isHeader, continues⟩ := inside
  obtain ⟨front, back, rfl, -, filtered⟩ := List.filter_eq_append_iff.mp whole
  obtain ⟨blanks, after, rfl, -, -, rfl⟩ := List.filter_eq_cons_iff.mp filtered
  refine ⟨front ++ blanks, header, after, by simp, isHeader, fun other member => ?_⟩
  cases blank : other.isBlank with
  | true => simp [Source.continues, blank]
  | false =>
    refine continues other ?_
    rcases List.mem_append.mp member with between | last
    · exact List.mem_append_left _ (List.mem_filter.mpr ⟨between, by simp [blank]⟩)
    · exact List.mem_append_right _ last

/-- Two parts have their outlines one after the other where the first line of the second part
    that is not blank stands outside the loops of the first. -/
theorem outline_append [CharacterNames]
    (outside : ∀ next ∈ Source.firstVisible? tail, ¬ Inside part next) :
    outline (part ++ tail) = outline part ++ outline tail := by
  have apart : ∀ next ∈ (tail.filter (!·.isBlank)).head?, ¬ Inside (part.filter (!·.isBlank)) next := by
    intro next first inside
    rw [List.head?_filter] at first
    exact outside next first inside.of_filter
  rw [← outline_filter (part ++ tail), List.filter_append, outline_append_of_head apart,
    outline_filter, outline_filter]

/-! ## Numbers -/

/-- A line with another number. -/
def Line.moved (move : Nat → Nat) (line : Line) : Line := { line with number := move line.number }

variable {move : Nat → Nat}

theorem Line.map_moved_id (lines : List Line) : lines.map (Line.moved id) = lines := List.map_id lines

@[simp] theorem Line.moved_content (line : Line) : (line.moved move).content = line.content := rfl

@[simp] theorem Line.moved_indent (line : Line) : (line.moved move).indent = line.indent := rfl

@[simp] theorem Line.moved_isBlank (line : Line) : (line.moved move).isBlank = line.isBlank := rfl

@[simp] theorem Line.moved_isInert (line : Line) : (line.moved move).isInert = line.isInert := rfl

@[simp] theorem Source.continues_moved (line : Line) :
    Source.continues indent (line.moved move) = Source.continues indent line := rfl

namespace Source

theorem block_moved (lines : List Line) :
    block indent (lines.map (Line.moved move)) = (block indent lines).map (Line.moved move) := by
  simp only [block, List.takeWhile_map, List.filter_map]
  rfl

theorem afterBlock_moved (lines : List Line) :
    afterBlock indent (lines.map (Line.moved move)) =
      (afterBlock indent lines).map (Line.moved move) := by
  simp only [afterBlock, List.dropWhile_map]
  rfl

end Source

end StepTrace
