import Mathlib.Data.List.TakeWhile
import StepTrace.Text.Blank

/-!
# Where a kind of characters ends

A run of characters of one kind ends in front of a text that is clear of the kind. So a text is
white space, what is left of it when it is trimmed, and white space again (`Text.trim_eq`), and
white space in front of a text that begins with none is its indentation (`Text.indent_append`).
-/

namespace StepTrace

/-- No character of a kind stands in front of a text. -/
def Clear (kind : Char → Bool) (text : List Char) : Prop := ∀ c ∈ text.head?, kind c = false

section
variable {kind : Char → Bool} {front rest text : List Char} {c : Char}

theorem clear_nil : Clear kind [] := by simp [Clear]

theorem takeWhile_append_clear (all : ∀ c ∈ front, kind c = true) (clear : Clear kind rest) :
    (front ++ rest).takeWhile kind = front := by
  rw [List.takeWhile_append_of_pos all]
  cases rest with
  | nil => simp
  | cons c others => simp [clear c rfl]

theorem dropWhile_append_clear (all : ∀ c ∈ front, kind c = true) (clear : Clear kind rest) :
    (front ++ rest).dropWhile kind = rest := by
  rw [List.dropWhile_append_of_pos all]
  cases rest with
  | nil => rfl
  | cons c others => simp [clear c rfl]

theorem clear_dropWhile : Clear kind (text.dropWhile kind) := by
  intro c first
  have stops := List.head?_dropWhile_not kind text
  rw [Option.mem_def.mp first] at stops
  exact stops

theorem Clear.of_append (clear : Clear kind (rest ++ text)) : Clear kind rest := by
  intro c first
  exact clear c (by simp [Option.mem_def.mp first])

theorem Clear.append (clear : Clear kind rest) (stops : kind c = false) :
    Clear kind (rest ++ c :: text) := by
  cases rest with
  | nil => simpa [Clear] using stops
  | cons other others => simpa [Clear] using clear

theorem Clear.append_of_ne_nil (clear : Clear kind rest) (nonempty : rest ≠ []) :
    Clear kind (rest ++ text) := by
  obtain ⟨first, others, rfl⟩ := List.exists_cons_of_ne_nil nonempty
  exact clear

end

namespace Text

variable {front back text : List Char} {c : Char}

/-! ## Cutting white space off -/

/-- Without its leading white space a text is what is left of it, and white space. -/
theorem trimStart_eq (text : List Char) :
    ∃ tail, trimStart text = trim text ++ tail ∧ ∀ c ∈ tail, isBlank c = true := by
  refine ⟨((trimStart text).reverse.takeWhile isBlank).reverse, ?_, fun c member => ?_⟩
  · rw [trim, trimEnd, ← List.reverse_append, List.takeWhile_append_dropWhile, List.reverse_reverse]
  · exact List.mem_takeWhile_imp (List.mem_reverse.mp member)

theorem trim_eq (text : List Char) : ∃ lead tail, text = lead ++ (trim text ++ tail) ∧
    (∀ c ∈ lead, isBlank c = true) ∧ ∀ c ∈ tail, isBlank c = true := by
  obtain ⟨tail, cut, tailBlank⟩ := trimStart_eq text
  refine ⟨text.takeWhile isBlank, tail, ?_, fun c member => List.mem_takeWhile_imp member, tailBlank⟩
  rw [← cut, trimStart, List.takeWhile_append_dropWhile]

theorem clear_trimStart : Clear isBlank (trimStart text) := clear_dropWhile

theorem clear_trim : Clear isBlank (trim text) := by
  obtain ⟨tail, cut, -⟩ := trimStart_eq text
  exact (cut ▸ clear_trimStart).of_append

/-! ## Texts that white space was cut off -/

theorem trimStart_of_clear (clear : Clear isBlank text) : trimStart text = text := by
  have whole : ([] ++ text).dropWhile isBlank = text :=
    dropWhile_append_clear (List.forall_mem_nil _) clear
  exact whole

theorem trim_trimStart : trim (trimStart text) = trim text := by
  rw [trim, trimStart_of_clear clear_trimStart, trim]

theorem trim_append_blank (blank : ∀ c ∈ front, isBlank c = true) :
    trim (front ++ text) = trim text := by
  rw [trim, trimStart, List.dropWhile_append_of_pos blank, ← trimStart, trim]

theorem trimEnd_append (visible : isBlank c = false) :
    trimEnd (front ++ c :: back) = front ++ c :: trimEnd back := by
  rw [trimEnd, trimEnd, List.reverse_append, List.reverse_cons, List.append_assoc,
    List.dropWhile_append]
  split
  · next all =>
    have none : back.reverse.dropWhile isBlank = [] := List.isEmpty_iff.mp all
    rw [none, List.singleton_append, List.dropWhile_cons_of_neg (by simp [visible])]
    simp
  · simp

/-- White space around a text that begins and ends with none is cut off. -/
theorem trim_surrounded (blankFront : ∀ c ∈ front, isBlank c = true)
    (blankBack : ∀ c ∈ back, isBlank c = true) (clear : Clear isBlank text)
    (ends : text.getLast? = some c) (visible : isBlank c = false) :
    trim (front ++ (text ++ back)) = text := by
  obtain ⟨before, rfl⟩ := List.getLast?_eq_some_iff.mp ends
  have nothing : trimEnd back = [] := by
    rw [trimEnd, List.dropWhile_eq_nil_iff.mpr fun c member => blankBack c (List.mem_reverse.mp member),
      List.reverse_nil]
  rw [trim_append_blank blankFront, trim, trimStart_of_clear (clear.append_of_ne_nil (by simp)),
    List.append_assoc, List.singleton_append, trimEnd_append visible, nothing]

/-- A text that begins and ends with no white space stays as it is. -/
theorem trim_of_visible (clear : Clear isBlank text) (ends : text.getLast? = some c)
    (visible : isBlank c = false) : trim text = text := by
  have none : ∀ c ∈ ([] : List Char), isBlank c = true := nofun
  simpa using trim_surrounded none none clear ends visible

theorem indent_append (blank : ∀ c ∈ front, isBlank c = true) (clear : Clear isBlank text) :
    indent (front ++ text) = front.length := by
  rw [indent, takeWhile_append_clear blank clear]

end Text

end StepTrace
