import StepTrace.Json.Printer

/-!
# JSON in ASCII

Where only ASCII is wanted, half of a pair is written by an escape like every character beyond
ASCII. So the JSON text of a value then holds nothing but characters, whatever texts are in the
value (`Json.isWhole_of_write?`).
-/

namespace StepTrace.Json

variable {layout : Layout} {separator text : Text} {items : List Text}

theorem isWhole_quoted (text : Text) : (quoted true text).IsWhole := by
  have each : ∀ point : Text.Point, ∀ written ∈ quotedPoint true point, written.isChar = true := by
    intro point
    cases point with
    | char c => exact Text.isWhole_ofChars _
    | half unit => exact Text.isWhole_ofChars (unitEscape (Text.Point.half unit).code)
  intro written member
  simp only [quoted, List.mem_append, List.mem_cons, List.mem_flatMap, List.not_mem_nil,
    or_false] at member
  rcases member with (rfl | ⟨point, -, inside⟩) | rfl
  · rfl
  · exact each point written inside
  · rfl

theorem isWhole_joined (between : separator.IsWhole) (each : ∀ item ∈ items, item.IsWhole) :
    (Text.joined separator items).IsWhole := by
  induction items with
  | nil => nofun
  | cons first others ih =>
    obtain ⟨here, later⟩ := List.forall_mem_cons.mp each
    cases others with
    | nil => exact here
    | cons second rest =>
      have split : Text.joined separator (first :: second :: rest) =
          first ++ separator ++ Text.joined separator (second :: rest) := rfl
      rw [split]
      exact Text.isWhole_append.mpr ⟨Text.isWhole_append.mpr ⟨here, between⟩, ih later⟩

theorem isWhole_enclosed {depth : Nat} {first last : Char} (each : ∀ item ∈ items, item.IsWhole) :
    (enclosed layout depth first last items).IsWhole := by
  unfold enclosed
  split
  · exact Text.isWhole_ofChars _
  · simp only [Text.isWhole_append, Text.isWhole_ofChars, true_and, and_true]
    exact isWhole_joined (Text.isWhole_ofChars _) each

mutual

theorem isWhole_of_text? (ascii : layout.asciiOnly = true) : ∀ (depth : Nat) (value : Value)
    (text : Text), text? layout depth value = some text → text.IsWhole
  | depth, .int n, text => fun written => by
    rw [text?] at written
    obtain ⟨digits, -, rfl⟩ := Option.map_eq_some_iff.mp written
    exact Text.isWhole_ofChars digits
  | depth, .float x, text => fun written => Option.some.inj written ▸ Text.isWhole_ofChars _
  | depth, .str own, text => fun written => by
    rw [text?, ascii] at written
    exact Option.some.inj written ▸ isWhole_quoted own
  | depth, .bool b, text => fun written => by
    obtain rfl := Option.some.inj written
    cases b <;> exact Text.isWhole_ofString _
  | depth, .null, text => fun written => Option.some.inj written ▸ Text.isWhole_ofString "null"
  | depth, .list items, text => fun written => by
    rw [text?] at written
    obtain ⟨texts, found, same⟩ := Option.bind_eq_some_iff.mp written
    obtain rfl := Option.some.inj same
    exact isWhole_enclosed (isWhole_of_itemTexts? ascii _ items texts found)
  | depth, .dict entries, text => fun written => by
    rw [text?] at written
    obtain ⟨texts, found, same⟩ := Option.bind_eq_some_iff.mp written
    obtain rfl := Option.some.inj same
    exact isWhole_enclosed (isWhole_of_entryTexts? ascii _ entries texts found)

theorem isWhole_of_itemTexts? (ascii : layout.asciiOnly = true) : ∀ (depth : Nat)
    (items : List Value) (texts : List Text), itemTexts? layout depth items = some texts →
      ∀ text ∈ texts, text.IsWhole
  | depth, [], texts => fun written => by
    obtain rfl := Option.some.inj written
    nofun
  | depth, item :: rest, texts => fun written => by
    rw [itemTexts?] at written
    obtain ⟨first, here, written⟩ := Option.bind_eq_some_iff.mp written
    obtain ⟨others, later, same⟩ := Option.bind_eq_some_iff.mp written
    obtain rfl := Option.some.inj same
    exact List.forall_mem_cons.mpr
      ⟨isWhole_of_text? ascii depth item first here,
        isWhole_of_itemTexts? ascii depth rest others later⟩

theorem isWhole_of_entryTexts? (ascii : layout.asciiOnly = true) : ∀ (depth : Nat)
    (entries : List (Text × Value)) (texts : List Text),
      entryTexts? layout depth entries = some texts → ∀ text ∈ texts, text.IsWhole
  | depth, [], texts => fun written => by
    obtain rfl := Option.some.inj written
    nofun
  | depth, (key, value) :: rest, texts => fun written => by
    rw [entryTexts?, ascii] at written
    obtain ⟨first, here, written⟩ := Option.bind_eq_some_iff.mp written
    obtain ⟨others, later, same⟩ := Option.bind_eq_some_iff.mp written
    obtain rfl := Option.some.inj same
    have entry : (quoted true key ++ (": " : Text) ++ first).IsWhole := by
      simp only [Text.isWhole_append, isWhole_quoted, Text.isWhole_ofString, true_and]
      exact isWhole_of_text? ascii depth value first here
    exact List.forall_mem_cons.mpr ⟨entry, isWhole_of_entryTexts? ascii depth rest others later⟩

end

/-- The JSON text of a value in ASCII holds nothing but characters. -/
theorem isWhole_of_write? {value : Value} (ascii : layout.asciiOnly = true)
    (written : write? layout value = some text) : text.IsWhole :=
  isWhole_of_text? ascii 0 value text written

end StepTrace.Json
