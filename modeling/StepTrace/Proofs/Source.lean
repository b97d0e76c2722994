import Mathlib.Data.List.Basic
import StepTrace.Proofs.Outline.Parts

/-!
# Programs put together from lines

Lines without line ends, joined into a text, are the lines of this text again. So a program
can be taken apart into runs of lines and put together from them.
-/

namespace StepTrace

namespace Text

variable {mark : Char} {part text : List Char} {parts : List (List Char)}

theorem split_append (free : mark ∉ part) (text : List Char) :
    split mark (part ++ text) = (split mark text).modifyHead (part ++ ·) := by
  induction part with
  | nil => rw [List.nil_append]; cases split mark text <;> rfl
  | cons c rest ih =>
    obtain ⟨here, later⟩ := List.ne_and_not_mem_of_not_mem_cons free
    rw [List.cons_append, split_cons, if_neg (Ne.symm here), ih later]
    cases split mark text <;> rfl

/-- The mark between two texts is a place to split at. -/
theorem split_append_mark (mark : Char) (first second : List Char) :
    split mark (first ++ mark :: second) = split mark first ++ split mark second := by
  induction first with
  | nil => simp [split, splitAfter]
  | cons c rest ih =>
    rw [List.cons_append, split_cons, split_cons, ih]
    split
    · rfl
    · cases parts : split mark rest with
      | nil => exact absurd parts (split_ne_nil mark rest)
      | cons part others => rfl

/-- Parts without the mark are the parts of the text that they are joined to. -/
theorem split_join (free : ∀ part ∈ parts, mark ∉ part) (some_part : parts ≠ []) :
    split mark (join [mark] parts) = parts := by
  induction parts with
  | nil => exact absurd rfl some_part
  | cons part rest ih =>
    obtain ⟨here, later⟩ := List.forall_mem_cons.mp free
    cases rest with
    | nil =>
      have alone := split_append here []
      simpa [join, split, splitAfter] using alone
    | cons next others =>
      rw [join, List.append_assoc, split_append here, List.singleton_append, split_cons, if_pos rfl,
        ih later (by simp)]
      · simp
      · simp

theorem not_mem_of_mem_split (member : part ∈ split mark text) : mark ∉ part := by
  induction text generalizing part with
  | nil =>
    have empty : part = [] := by simpa [split, splitAfter] using member
    simp [empty]
  | cons c rest ih =>
    rw [split_cons] at member
    split at member
    · rcases List.mem_cons.mp member with rfl | later
      · exact List.not_mem_nil
      · exact ih later
    · next other =>
      cases parts : split mark rest with
      | nil => simp [parts] at member
      | cons first others =>
        rw [parts] at member ih
        rcases List.mem_cons.mp member with rfl | later
        · exact List.not_mem_cons_of_ne_of_not_mem (Ne.symm other) (ih List.mem_cons_self)
        · exact ih (List.mem_cons_of_mem first later)

end Text

namespace Source

variable {number : Nat} {texts : List (List Char)} {front back : List Line}

/-- Lines with these texts, numbered from a number on. -/
def linesFrom : Nat → List (List Char) → List Line
  | _, [] => []
  | number, text :: rest => ⟨number, text⟩ :: linesFrom (number + 1) rest

private theorem map_zipIdx (texts : List (List Char)) (number : Nat) :
    ((texts.zipIdx number).map fun (text, number) => (⟨number, text⟩ : Line)) =
      linesFrom number texts := by
  induction texts generalizing number with
  | nil => rfl
  | cons text rest ih => rw [List.zipIdx_cons, List.map_cons, ih, linesFrom]

theorem lines_eq_linesFrom (code : List Char) : lines code = linesFrom 1 (Text.split '\n' code) :=
  map_zipIdx _ 1

@[simp] theorem map_text_linesFrom : (linesFrom number texts).map Line.text = texts := by
  induction texts generalizing number with
  | nil => rfl
  | cons text rest ih => rw [linesFrom, List.map_cons, ih]

theorem linesFrom_append (number : Nat) (first second : List (List Char)) :
    linesFrom number (first ++ second) =
      linesFrom number first ++ linesFrom (number + first.length) second := by
  induction first generalizing number with
  | nil => rfl
  | cons text rest ih =>
    rw [List.cons_append, linesFrom, linesFrom, ih, List.cons_append, List.length_cons,
      Nat.add_right_comm, Nat.add_assoc]

theorem linesFrom_drop (number count : Nat) (texts : List (List Char)) :
    (linesFrom number texts).drop count = linesFrom (number + count) (texts.drop count) := by
  induction count generalizing number texts with
  | zero => rfl
  | succ count ih =>
    cases texts with
    | nil => rfl
    | cons text rest =>
      rw [linesFrom, List.drop_succ_cons, List.drop_succ_cons, ih, Nat.add_assoc, Nat.add_comm 1]

theorem linesFrom_take (number count : Nat) (texts : List (List Char)) :
    (linesFrom number texts).take count = linesFrom number (texts.take count) := by
  induction count generalizing number texts with
  | zero => rfl
  | succ count ih =>
    cases texts with
    | nil => rfl
    | cons text rest => rw [linesFrom, List.take_succ_cons, List.take_succ_cons, ih, linesFrom]

theorem le_number_of_mem_linesFrom {line : Line} (member : line ∈ linesFrom number texts) :
    number ≤ line.number := by
  induction texts generalizing number with
  | nil => cases member
  | cons text rest ih =>
    rcases List.mem_cons.mp member with rfl | later
    · exact Nat.le_refl _
    · exact Nat.le_of_succ_le (ih later)

/-- Lines with other numbers have the same text in their first line that is not blank. -/
theorem firstVisible?_linesFrom {lines : List Line} {next : Line}
    (first : firstVisible? (linesFrom number (lines.map Line.text)) = some next) :
    ∃ line, firstVisible? lines = some line ∧ next.text = line.text := by
  induction lines generalizing number with
  | nil => cases first
  | cons line rest ih =>
    have same : Line.isBlank ⟨number, line.text⟩ = line.isBlank := rfl
    rw [List.map_cons, linesFrom] at first
    cases blank : line.isBlank with
    | true =>
      simp only [firstVisible?, List.find?_cons, same, blank, Bool.not_true] at first ⊢
      exact ih first
    | false =>
      rw [firstVisible?_cons (same.trans blank), Option.some.injEq] at first
      exact ⟨line, firstVisible?_cons blank, by rw [← first]⟩

/-- No line of a program holds a line end. -/
theorem newline_not_mem_text {code : List Char} {line : Line} (member : line ∈ lines code) :
    '\n' ∉ line.text := by
  have text : line.text ∈ (lines code).map Line.text := List.mem_map_of_mem member
  rw [lines_eq_linesFrom, map_text_linesFrom] at text
  exact Text.not_mem_of_mem_split text

/-- A program put together from lines has the outline of these lines, from any place on. No
    lines at all make a blank one. -/
theorem outline_lines_join [CharacterNames] (free : ∀ text ∈ texts, '\n' ∉ text) {start : Nat}
    (early : start ≤ texts.length) :
    outline ((lines (Text.join ['\n'] texts)).drop start) =
      outline ((linesFrom 1 texts).drop start) := by
  cases texts with
  | nil =>
    obtain rfl : start = 0 := Nat.le_zero.mp early
    exact outline_inert [] rfl
  | cons text rest => rw [lines_eq_linesFrom, Text.split_join free (List.cons_ne_nil text rest)]

/-- The parts of numbered lines are numbered one after the other. -/
theorem linesFrom_eq_append (whole : linesFrom number texts = front ++ back) :
    front = linesFrom number (front.map Line.text) ∧
      back = linesFrom (number + front.length) (back.map Line.text) := by
  induction front generalizing number texts with
  | nil =>
    rw [List.nil_append] at whole
    exact ⟨rfl, by rw [← whole, map_text_linesFrom]; rfl⟩
  | cons line rest ih =>
    cases texts with
    | nil => simp [linesFrom] at whole
    | cons text others =>
      rw [linesFrom, List.cons_append, List.cons.injEq] at whole
      obtain ⟨rfl, whole⟩ := whole
      obtain ⟨first, second⟩ := ih whole
      refine ⟨by rw [List.map_cons, linesFrom, ← first], ?_⟩
      rw [second, map_text_linesFrom, List.length_cons, Nat.add_comm rest.length, Nat.add_assoc]

theorem length_linesFrom (number : Nat) (texts : List (List Char)) :
    (linesFrom number texts).length = texts.length := by
  rw [← List.length_map Line.text, map_text_linesFrom]

theorem getElem?_linesFrom (number : Nat) (texts : List (List Char)) (place : Nat) :
    (linesFrom number texts)[place]? = texts[place]?.map (Line.mk (number + place)) := by
  induction texts generalizing number place with
  | nil => rfl
  | cons text rest ih =>
    cases place with
    | zero => rfl
    | succ place =>
      rw [linesFrom, List.getElem?_cons_succ, List.getElem?_cons_succ, ih, Nat.add_right_comm,
        Nat.add_assoc]

/-- Lines that were numbered anew have other numbers again. -/
theorem map_moved_linesFrom {lines : List Line} {move : Nat → Nat}
    (moves : ∀ place line, lines[place]? = some line → move (number + place) = line.number) :
    (linesFrom number (lines.map Line.text)).map (Line.moved move) = lines := by
  induction lines generalizing number with
  | nil => rfl
  | cons line rest ih =>
    have later : ∀ place other, rest[place]? = some other →
        move (number + 1 + place) = other.number := by
      intro place other here
      have next := moves (place + 1) other here
      rwa [← Nat.add_assoc, Nat.add_right_comm] at next
    have here : move number = line.number := moves 0 line rfl
    rw [List.map_cons, linesFrom, List.map_cons, ih later, Line.moved, here]

/-- Other numbers in a row. -/
theorem linesFrom_moved {move : Nat → Nat} {other : Nat}
    (moves : ∀ place < texts.length, move (number + place) = other + place) :
    (linesFrom number texts).map (Line.moved move) = linesFrom other texts := by
  have moved : ∀ place line, (linesFrom other texts)[place]? = some line →
      move (number + place) = line.number := by
    intro place line here
    rw [getElem?_linesFrom, Option.map_eq_some_iff] at here
    obtain ⟨text, there, rfl⟩ := here
    exact moves place (List.getElem?_eq_some_iff.mp there).1
  have whole := map_moved_linesFrom moved
  rwa [map_text_linesFrom] at whole

/-! ## Parts of programs -/

/-- A program without its first lines. -/
def dropLines (code : List Char) (count : Nat) : List Char :=
  Text.join ['\n'] ((Text.split '\n' code).drop count)

/-- The lines of a program after its first ones are those of the program without these, with
    their numbers further on. -/
theorem drop_lines {code : List Char} {count : Nat}
    (some_line : count < (Text.split '\n' code).length) :
    (lines code).drop count = (lines (dropLines code count)).map (Line.moved (· + count)) := by
  have free : ∀ text ∈ (Text.split '\n' code).drop count, '\n' ∉ text := fun _ member =>
    Text.not_mem_of_mem_split (List.mem_of_mem_drop member)
  have left : (Text.split '\n' code).drop count ≠ [] := by
    rw [Ne, List.drop_eq_nil_iff]
    omega
  rw [lines_eq_linesFrom, lines_eq_linesFrom, dropLines, Text.split_join free left, linesFrom_drop]
  exact (linesFrom_moved fun place _ => by omega).symm

/-- The lines of two programs, the second one after the first. -/
theorem lines_append (first second : List Char) :
    lines (first ++ '\n' :: second) =
      lines first ++ (lines second).map (Line.moved (· + (lines first).length)) := by
  have length : (lines first).length = (Text.split '\n' first).length := by simp [lines]
  rw [lines_eq_linesFrom (first ++ _), Text.split_append_mark, linesFrom_append, length,
    lines_eq_linesFrom first, lines_eq_linesFrom second]
  exact congrArg _ (linesFrom_moved fun place _ => by omega).symm

end Source

end StepTrace
