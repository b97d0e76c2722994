import StepTrace.Proofs.Outline.Nesting
import StepTrace.Proofs.Run.Expansion

/-!
# Taking bodies out

The body that a header takes out of some lines, by the places of its lines, which is the one that
the outline gives a loop (`outline_extract`). Taken out of a body that has been taken out before,
it is the body that the same header takes out of all lines, and it ends at the same place
(`extract_correct`): an inner block ends with the outer one at the latest, and neither the blank
lines nor the places have a part in where it ends.
-/

namespace StepTrace

/-- A text with something in it but white space. -/
def Text.Visible (text : List Char) : Prop := trim text ≠ []

namespace Source

open Expansion (around)

/-- The places of the lines that the line at a place takes out of some lines as its body, and the
    place after this body. Places are counted from zero. -/
def extract (texts : List (List Char)) (header : Nat) : List Nat × Nat :=
  let indent := Text.indent (texts.getD header [])
  let later := (linesFrom 1 texts).drop (header + 1)
  ((block indent later).map fun line => line.number - 1,
    texts.length - (afterBlock indent later).length)

/-- The line at a place ends the body of a header: it is visible, and indented no deeper. -/
def Ends (texts : List (List Char)) (header place : Nat) : Prop :=
  ∃ text, texts[place]? = some text ∧ Text.Visible text ∧
    Text.indent text ≤ Text.indent (texts.getD header [])

/-- A body consists of the visible lines between its header and its end, in their order. All of
    them are indented deeper than the header. It ends at the first line after the header that
    ends it, or after the last line. -/
structure IsBody (texts : List (List Char)) (header : Nat) (body : List Nat) (past : Nat) : Prop where
  increasing : body.Pairwise (· < ·)
  mem_iff : ∀ place, place ∈ body ↔
    header < place ∧ place < past ∧ ∃ text, texts[place]? = some text ∧ Text.Visible text
  deeper : ∀ place ∈ body, ∀ text, texts[place]? = some text →
    Text.indent (texts.getD header []) < Text.indent text
  forward : header < past ∧ past ≤ texts.length
  first : ∀ place, header < place → place < past → ¬ Ends texts header place
  ends : past < texts.length → Ends texts header past

variable {texts : List (List Char)} {lines rest tail : List Line} {line first : Line}
  {number indent header place : Nat}

/-! ## Numbered lines -/

/-- A line has the number and the text of its place. -/
theorem getElem?_linesFrom_one : (linesFrom 1 texts)[place]? = some line ↔
    texts[place]? = some line.text ∧ line.number = place + 1 := by
  rw [getElem?_linesFrom, Option.map_eq_some_iff]
  constructor
  · rintro ⟨text, here, rfl⟩
    exact ⟨here, Nat.add_comm 1 place⟩
  · rintro ⟨here, number⟩
    exact ⟨line.text, here, by rw [Nat.add_comm, ← number]⟩

theorem place_of_mem (member : line ∈ linesFrom 1 texts) :
    texts[line.number - 1]? = some line.text ∧ 0 < line.number := by
  obtain ⟨place, here⟩ := List.mem_iff_getElem?.mp member
  obtain ⟨text, number⟩ := getElem?_linesFrom_one.mp here
  rw [number]
  exact ⟨text, Nat.succ_pos place⟩

/-- Where the line stands that is left as the first one, by how many lines are left. -/
theorem getElem?_of_suffix (suffix : first :: rest <:+ lines) :
    lines[lines.length - (first :: rest).length]? = some first := by
  rw [← List.head?_drop, ← List.suffix_iff_eq_drop.mp suffix, List.head?_cons]

/-- The place of the line that is left as the first one. -/
theorem number_of_suffix (suffix : first :: rest <:+ linesFrom 1 texts) :
    first.number - 1 = texts.length - (first :: rest).length := by
  have here := getElem?_of_suffix suffix
  rw [(getElem?_linesFrom_one.mp here).2, length_linesFrom]
  rfl

/-! ## The place after a body -/

theorem visible_iff : line.isBlank = false ↔ Text.Visible line.text := by
  simp [Line.isBlank, Line.content, Text.Visible]

theorem not_continues_iff : continues indent line = false ↔
    Text.Visible line.text ∧ Text.indent line.text ≤ indent := by
  rw [continues, Bool.or_eq_false_iff, visible_iff, decide_eq_false_iff_not, Nat.not_lt]
  rfl

/-- The body of a header with the blank lines in it. -/
def taken (texts : List (List Char)) (header : Nat) : List Line :=
  ((linesFrom 1 texts).drop (header + 1)).takeWhile (continues (Text.indent (texts.getD header [])))

/-- The lines of the body of a header. -/
def bodyLines (texts : List (List Char)) (header : Nat) : List Line :=
  block (Text.indent (texts.getD header [])) ((linesFrom 1 texts).drop (header + 1))

/-- The lines after the body of a header. -/
def left (texts : List (List Char)) (header : Nat) : List Line :=
  afterBlock (Text.indent (texts.getD header [])) ((linesFrom 1 texts).drop (header + 1))

theorem bodyLines_subset (member : line ∈ bodyLines texts header) : line ∈ linesFrom 1 texts :=
  List.mem_of_mem_drop (block_sublist.subset member)

theorem taken_append_left (texts : List (List Char)) (header : Nat) :
    taken texts header ++ left texts header = (linesFrom 1 texts).drop (header + 1) :=
  takeWhile_append_afterBlock _ _

theorem extract_snd (inside : header < texts.length) :
    (extract texts header).2 = header + 1 + (taken texts header).length ∧
      (extract texts header).2 + (left texts header).length = texts.length := by
  have lengths := congrArg List.length (taken_append_left texts header)
  have past : (extract texts header).2 = texts.length - (left texts header).length := rfl
  rw [List.length_append, List.length_drop, length_linesFrom] at lengths
  omega

/-- The lines after a body are those from its end on. -/
theorem drop_extract (inside : header < texts.length) :
    (linesFrom 1 texts).drop (extract texts header).2 = left texts header := by
  rw [(extract_snd inside).1, ← List.drop_drop, ← taken_append_left, List.drop_left]

/-- The lines of a body, blank or not, stand between the header and its end. -/
theorem mem_taken_iff (inside : header < texts.length) : line ∈ taken texts header ↔
    ∃ place, header < place ∧ place < (extract texts header).2 ∧
      (linesFrom 1 texts)[place]? = some line := by
  have past := (extract_snd inside).1
  have there : ∀ index < (taken texts header).length,
      (linesFrom 1 texts)[header + 1 + index]? = (taken texts header)[index]? := by
    intro index within
    rw [← List.getElem?_drop, ← taken_append_left, List.getElem?_append_left within]
  rw [List.mem_iff_getElem?]
  constructor
  · rintro ⟨index, here⟩
    have within := (List.getElem?_eq_some_iff.mp here).1
    exact ⟨header + 1 + index, by omega, by omega, (there index within).trans here⟩
  · rintro ⟨place, after, before, here⟩
    refine ⟨place - (header + 1), ?_⟩
    rw [← there _ (by omega), ← here]
    congr 1
    omega

/-! ## Bodies -/

theorem mem_extract_iff (inside : header < texts.length) : place ∈ (extract texts header).1 ↔
    ∃ line ∈ taken texts header, Text.Visible line.text ∧ (linesFrom 1 texts)[place]? = some line := by
  rw [extract, List.mem_map]
  constructor
  · rintro ⟨line, member, rfl⟩
    obtain ⟨isTaken, visible⟩ := mem_block.mp member
    obtain ⟨place, -, -, here⟩ := (mem_taken_iff inside).mp isTaken
    have number := (getElem?_linesFrom_one.mp here).2
    refine ⟨line, isTaken, visible_iff.mp visible, ?_⟩
    rwa [number]
  · rintro ⟨line, isTaken, visible, here⟩
    refine ⟨line, mem_block.mpr ⟨isTaken, visible_iff.mpr visible⟩, ?_⟩
    rw [(getElem?_linesFrom_one.mp here).2]
    rfl

theorem isBody_extract (inside : header < texts.length) :
    IsBody texts header (extract texts header).1 (extract texts header).2 where
  increasing := by
    have ordered : Ordered (block (Text.indent (texts.getD header []))
        ((linesFrom 1 texts).drop (header + 1))) :=
      (ordered_linesFrom 1 texts).sublist (block_sublist.trans (List.drop_sublist _ _))
    refine List.pairwise_map.mpr (List.Pairwise.imp_of_mem ?_ ordered)
    intro line later member _ before
    have := le_number_of_mem_linesFrom (List.mem_of_mem_drop (block_sublist.subset member))
    omega
  mem_iff := by
    intro place
    rw [mem_extract_iff inside]
    constructor
    · rintro ⟨line, isTaken, visible, here⟩
      obtain ⟨other, after, before, there⟩ := (mem_taken_iff inside).mp isTaken
      obtain ⟨text, number⟩ := getElem?_linesFrom_one.mp here
      obtain rfl : other = place := by
        have := (getElem?_linesFrom_one.mp there).2
        omega
      exact ⟨after, before, line.text, text, visible⟩
    · rintro ⟨after, before, text, here, visible⟩
      have there : (linesFrom 1 texts)[place]? = some ⟨place + 1, text⟩ :=
        getElem?_linesFrom_one.mpr ⟨here, rfl⟩
      exact ⟨⟨place + 1, text⟩, (mem_taken_iff inside).mpr ⟨place, after, before, there⟩, visible, there⟩
  deeper := by
    intro place member text here
    obtain ⟨line, isTaken, visible, there⟩ := (mem_extract_iff inside).mp member
    have inBlock := mem_block.mpr ⟨isTaken, visible_iff.mpr visible⟩
    have same := (getElem?_linesFrom_one.mp there).1
    obtain rfl : line.text = text := Option.some.inj (same.symm.trans here)
    exact lt_indent_of_mem_block inBlock
  forward := by
    have := extract_snd inside
    omega
  first := by
    rintro place after before ⟨text, here, visible, shallow⟩
    have there : (linesFrom 1 texts)[place]? = some ⟨place + 1, text⟩ :=
      getElem?_linesFrom_one.mpr ⟨here, rfl⟩
    have isTaken := (mem_taken_iff inside).mpr ⟨place, after, before, there⟩
    have goesOn := List.mem_takeWhile_imp isTaken
    rw [not_continues_iff.mpr ⟨visible, shallow⟩] at goesOn
    cases goesOn
  ends := by
    intro before
    have within : (extract texts header).2 < (linesFrom 1 texts).length := by rwa [length_linesFrom]
    have there := List.getElem?_eq_getElem within
    have head := List.head?_drop.symm.trans (congrArg List.head? (drop_extract inside))
    rw [there] at head
    have stops := not_continues_of_head head.symm
    obtain ⟨visible, shallow⟩ := not_continues_iff.mp stops
    exact ⟨_, (getElem?_linesFrom_one.mp there).1, visible, shallow⟩

/-! ## Bodies in outlines -/

/-- The lines of a body are those at its places. -/
theorem bodyLines_eq (texts : List (List Char)) (header : Nat) :
    bodyLines texts header =
      (extract texts header).1.map fun place => ⟨place + 1, texts.getD place []⟩ := by
  rw [extract, List.map_map]
  refine (List.map_id _).symm.trans (List.map_congr_left fun line member => ?_)
  obtain ⟨text, positive⟩ := place_of_mem (bodyLines_subset member)
  rw [Function.comp_apply, List.getD_eq_getElem?_getD, text, Option.getD_some,
    Nat.sub_add_cancel positive]
  rfl

/-- The outline of a program gives a loop the lines at the places of its body, and goes on at the
    end of this body. -/
theorem outline_extract [CharacterNames] {text countText : List Char} {var : String} {count : Expr}
    (here : texts[header]? = some text)
    (reads : Statement.ofLine (Text.trim text) = .ok (.loop var count countText)) :
    outline ((linesFrom 1 texts).drop header) =
      .mk (header + 1) (.ok (.loop var count countText))
          (outline ((extract texts header).1.map fun place => ⟨place + 1, texts.getD place []⟩)) ::
        outline ((linesFrom 1 texts).drop (extract texts header).2) := by
  have inside : header < texts.length := (List.getElem?_eq_some_iff.mp here).1
  have numbered : (linesFrom 1 texts)[header]? = some ⟨header + 1, text⟩ :=
    getElem?_linesFrom_one.mpr ⟨here, rfl⟩
  have active : Line.isInert ⟨header + 1, text⟩ = false := active_of_reads reads
  have same : texts.getD header [] = text := by
    rw [List.getD_eq_getElem?_getD, here, Option.getD_some]
  rw [List.drop_eq_getElem?_toList_append, numbered, Option.toList_some, List.singleton_append,
    outline_loop _ active reads, drop_extract inside, ← bodyLines_eq, bodyLines, left, same]
  rfl

/-! ## Bodies in bodies -/

/-- A line of a block in the lines that the block was taken from. -/
theorem exists_of_block_getElem? (here : (block indent lines)[place]? = some line) :
    ∃ outer inner, lines.takeWhile (continues indent) = outer ++ line :: inner ∧
      (block indent lines).drop (place + 1) = inner.filter (!·.isBlank) := by
  have whole : block indent lines =
      (block indent lines).take place ++ line :: (block indent lines).drop (place + 1) := by
    have dropped := @List.drop_eq_getElem?_toList_append _ (block indent lines) place
    rw [here, Option.toList_some, List.singleton_append] at dropped
    rw [← dropped, List.take_append_drop]
  obtain ⟨front, back, split, -, filtered⟩ := List.filter_eq_append_iff.mp whole
  obtain ⟨blanks, inner, rfl, -, -, same⟩ := List.filter_eq_cons_iff.mp filtered
  exact ⟨front ++ blanks, inner, by rw [split, List.append_assoc], same.symm⟩

/-- After a line of a body come the lines of the body after it, up to some blank ones, and then
    those after the body. -/
theorem exists_drop_of_bodyLines (here : (bodyLines texts header)[place]? = some line) :
    ∃ inner, (linesFrom 1 texts).drop line.number = inner ++ left texts header ∧
      (bodyLines texts header).drop (place + 1) = inner.filter (!·.isBlank) ∧
      Ended line.indent inner (left texts header) := by
  obtain ⟨outer, inner, split, dropped⟩ := exists_of_block_getElem? here
  have visible := (mem_block.mp (List.mem_of_getElem? here)).2
  refine ⟨inner, ?_, dropped, ended_in_block split visible⟩
  have later : (linesFrom 1 texts).drop (header + 1) =
      outer ++ line :: (inner ++ left texts header) := by
    rw [← taken_append_left, taken, split, List.append_assoc, List.cons_append]
  have number : line.number = header + 1 + outer.length + 1 := by
    have there : (linesFrom 1 texts)[header + 1 + outer.length]? = some line := by
      rw [← List.getElem?_drop, later, List.getElem?_append_right (Nat.le_refl _), Nat.sub_self]
      rfl
    exact (getElem?_linesFrom_one.mp there).2
  rw [number, Nat.add_assoc (header + 1), ← List.drop_drop, later, ← List.drop_drop, List.drop_left]
  rfl

/-- A line of a body takes the same lines out of the body as out of all lines, and leaves the
    same ones of the body. -/
theorem block_of_bodyLines (here : (bodyLines texts header)[place]? = some line) :
    block line.indent ((linesFrom 1 texts).drop line.number) =
        block line.indent ((bodyLines texts header).drop (place + 1)) ∧
      ∃ rest, afterBlock line.indent ((linesFrom 1 texts).drop line.number) =
          rest ++ left texts header ∧
        afterBlock line.indent ((bodyLines texts header).drop (place + 1)) =
          rest.filter (!·.isBlank) := by
  obtain ⟨inner, whole, dropped, ended⟩ := exists_drop_of_bodyLines here
  rw [whole, dropped, block_append ended, block_filter, afterBlock_append ended, afterBlock_filter]
  exact ⟨rfl, afterBlock line.indent inner, rfl, rfl⟩

/-! ## Places in bodies -/

theorem getElem?_extract (texts : List (List Char)) (header place : Nat) :
    (extract texts header).1[place]? =
      (bodyLines texts header)[place]?.map fun line => line.number - 1 :=
  List.getElem?_map ..

/-- The texts of a body are those at its places. -/
theorem map_text_bodyLines (texts : List (List Char)) (header : Nat) :
    (extract texts header).1.map (texts.getD · []) = (bodyLines texts header).map Line.text := by
  rw [bodyLines_eq, List.map_map]
  rfl

theorem map_moved_around (body : List Line) :
    (linesFrom 1 (body.map Line.text)).map (Line.moved (around body)) = body := by
  refine map_moved_linesFrom fun place line here => ?_
  rw [around, Nat.add_sub_cancel_left, here, Option.elim_some]

/-- A line of a body that is numbered anew stands where its number says. -/
theorem getElem?_around {body : List Line}
    (member : line ∈ linesFrom 1 (body.map Line.text)) :
    body[line.number - 1]? = some (line.moved (around body)) := by
  obtain ⟨place, here⟩ := List.mem_iff_getElem?.mp member
  have number := (getElem?_linesFrom_one.mp here).2
  have moved : ((linesFrom 1 (body.map Line.text)).map (Line.moved (around body)))[place]? =
      some (line.moved (around body)) := by rw [List.getElem?_map, here, Option.map_some]
  rwa [map_moved_around, show place = line.number - 1 by omega] at moved

/-- What a line with a text takes out of some lines. -/
theorem extract_of_text {text : List Char} (here : texts[place]? = some text) :
    extract texts place =
      ((block (Text.indent text) ((linesFrom 1 texts).drop (place + 1))).map (Line.number · - 1),
        texts.length -
          (afterBlock (Text.indent text) ((linesFrom 1 texts).drop (place + 1))).length) := by
  rw [extract, List.getD_eq_getElem?_getD, here, Option.getD_some]

/-- What a line of some lines takes out of them. -/
theorem extract_of_line (member : line ∈ linesFrom 1 texts) :
    extract texts (line.number - 1) =
      ((block line.indent ((linesFrom 1 texts).drop line.number)).map (Line.number · - 1),
        texts.length - (afterBlock line.indent ((linesFrom 1 texts).drop line.number)).length) := by
  obtain ⟨text, positive⟩ := place_of_mem member
  rw [extract_of_text text, Nat.sub_add_cancel positive]
  rfl

/-- The lines of a body after one of them, numbered anew, have their numbers around it back. -/
theorem map_moved_drop (body : List Line) (place : Nat) :
    ((linesFrom 1 (body.map Line.text)).drop place).map (Line.moved (around body)) =
      body.drop place := by
  rw [List.map_drop, map_moved_around]

/-- A line of a body takes out of the body, by the places around it, what it takes out of all
    lines. -/
theorem extract_fst_of_body (here : (bodyLines texts header)[place]? = some line) :
    (extract ((bodyLines texts header).map Line.text) place).1.map
        ((extract texts header).1[·]?) =
      (extract texts (line.number - 1)).1.map some := by
  have member := bodyLines_subset (List.mem_of_getElem? here)
  have text : ((bodyLines texts header).map Line.text)[place]? = some line.text := by
    rw [List.getElem?_map, here, Option.map_some]
  rw [extract_of_text text, extract_of_line member, (block_of_bodyLines here).1,
    ← map_moved_drop (bodyLines texts header), block_moved, List.map_map, List.map_map, List.map_map]
  refine List.map_congr_left fun inner isInner => ?_
  have numbered := getElem?_around (List.mem_of_mem_drop (block_sublist.subset isInner))
  rw [Function.comp_apply, getElem?_extract, numbered]
  rfl

/-- A body in a body ends where it ends in all lines: at a line of the outer body, or where this
    one ends. -/
theorem extract_snd_of_body (here : (bodyLines texts header)[place]? = some line) :
    ((extract texts header).1 ++ [(extract texts header).2])[
        (extract ((bodyLines texts header).map Line.text) place).2]? =
      some (extract texts (line.number - 1)).2 := by
  have member := bodyLines_subset (List.mem_of_getElem? here)
  have text : ((bodyLines texts header).map Line.text)[place]? = some line.text := by
    rw [List.getElem?_map, here, Option.map_some]
  obtain ⟨-, rest, around, inBody⟩ := block_of_bodyLines here
  have inner : (extract ((bodyLines texts header).map Line.text) place).2 =
      (bodyLines texts header).length - (rest.filter (!·.isBlank)).length := by
    rw [extract_of_text text, List.length_map, ← inBody,
      ← map_moved_drop (bodyLines texts header), afterBlock_moved, List.length_map]
    rfl
  have length : (extract texts header).1.length = (bodyLines texts header).length :=
    List.length_map ..
  rw [inner, extract_of_line member, around]
  dsimp only
  cases rest with
  | nil =>
    rw [List.filter_nil, List.length_nil, Nat.sub_zero, ← length, List.getElem?_concat_length]
    rfl
  | cons next others =>
    have visible : next.isBlank = false := by
      have stops := not_continues_of_head (congrArg List.head? around)
      exact visible_iff.mpr (not_continues_iff.mp stops).1
    rw [List.filter_cons_of_pos (by simp [visible])] at inBody ⊢
    have suffix : next :: others.filter (!·.isBlank) <:+ bodyLines texts header := by
      rw [← inBody]
      exact (List.dropWhile_suffix _).trans (List.drop_suffix _ _)
    have shorter := suffix.length_le
    have left : next :: (others ++ left texts header) <:+ linesFrom 1 texts := by
      rw [← List.cons_append, ← around]
      exact (List.dropWhile_suffix _).trans (List.drop_suffix _ _)
    rw [List.getElem?_append_left, getElem?_extract, getElem?_of_suffix suffix,
      Option.map_some, number_of_suffix left]
    · rfl
    · rw [length]
      simp only [List.length_cons] at shorter ⊢
      omega

/-! ## Extraction and nesting -/

/-- A header takes out of any lines the visible ones up to its end as its body. What a line of
    this body takes out of it as a header of its own, by the places around the body, is what it
    takes out of all lines; and its end is the end that it has among all lines, which is a line
    of the outer body or the end of that one. -/
theorem extract_correct (inside : header < texts.length) :
    let body := (extract texts header).1
    let past := (extract texts header).2
    IsBody texts header body past ∧
      ∀ place inner, body[place]? = some inner →
        let own := extract (body.map (texts.getD · [])) place
        own.1.map (body[·]?) = (extract texts inner).1.map some ∧
          (body ++ [past])[own.2]? = some (extract texts inner).2 := by
  intro body past
  refine ⟨isBody_extract inside, fun place inner here => ?_⟩
  obtain ⟨line, isLine, rfl⟩ := Option.map_eq_some_iff.mp ((getElem?_extract ..).symm.trans here)
  intro own
  have same : own = extract ((bodyLines texts header).map Line.text) place := by
    rw [← map_text_bodyLines]
  rw [same]
  exact ⟨extract_fst_of_body isLine, extract_snd_of_body isLine⟩

/-- Blank lines in both bodies and after them, and lines that go back and forth. -/
theorem extract_correct_irregular :
    let texts := ["for i in range(2):", "", "    for j in range(2):", "      x = i", "  ",
      "     y = j", "  z = y", "   ", "w = z"].map String.toList
    extract texts 0 = ([2, 3, 5, 6], 8) ∧ extract texts 2 = ([3, 5], 6) ∧
      extract ([2, 3, 5, 6].map (texts.getD · [])) 0 = ([1, 2], 3) ∧
      IsBody texts 0 (extract texts 0).1 (extract texts 0).2 ∧
      ∀ place inner, (extract texts 0).1[place]? = some inner →
        (extract ((extract texts 0).1.map (texts.getD · [])) place).1.map ((extract texts 0).1[·]?) =
            (extract texts inner).1.map some ∧
          ((extract texts 0).1 ++ [(extract texts 0).2])[
              (extract ((extract texts 0).1.map (texts.getD · [])) place).2]? =
            some (extract texts inner).2 := by
  intro texts
  exact ⟨by decide +kernel, by decide +kernel, by decide +kernel, extract_correct (by decide)⟩

end Source

end StepTrace
