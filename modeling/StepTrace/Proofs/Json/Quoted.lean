import StepTrace.Json.Quoted
import StepTrace.Proofs.Token.Extent
import StepTrace.Text.Escape

/-!
# Quoted texts as string literals

A text that is quoted as in JSON, with the characters beyond ASCII as they are, is a string
literal of the source that stands for the text. The two formats were made apart: each character
is written as one of the escapes that a literal knows, or as itself where a literal takes it as
it is (`Json.Written`). So what stands between the quotes is the body of a literal
(`Json.quoted_body`), and its escapes stand for the text (`Json.unescape_body`).
-/

namespace StepTrace.Json

variable {c letter : Char} {rest written : List Char}

/-- How a character is written between quotes: by a letter of its own, by its code where it is a
    control character, and otherwise as it is. -/
inductive Written (c : Char) : List Char → Prop
  | letter {letter : Char} (known : shortEscape? c = some letter) : Written c ['\\', letter]
  | code (control : c.toNat < 0x20) : Written c ('\\' :: 'u' :: Text.hexDigits 4 c.toNat)
  | plain (notQuote : c ≠ '\x22') (notEscape : c ≠ '\\') (visible : 0x20 ≤ c.toNat) : Written c [c]

theorem written_quotedChar (c : Char) : Written c (quotedChar false c) := by
  unfold quotedChar
  split
  · next letter known => exact .letter known
  · next unknown =>
    by_cases control : c.toNat < 0x20
    · have single : units c = [c.toNat] := if_pos (by omega)
      rw [if_pos (.inl control), single, List.flatMap_singleton]
      exact .code control
    · rw [if_neg (by simp [control])]
      refine .plain ?_ ?_ (Nat.not_lt.mp control)
      · rintro rfl
        cases unknown
      · rintro rfl
        cases unknown

/-! ## What the escapes stand for -/

/-- The letters are those that a literal knows, for the same characters. -/
private theorem escape_letter [CharacterNames] (known : shortEscape? c = some letter)
    (rest : List Char) : Text.escape (letter :: rest) = some ([.char c], 1) := by
  simp only [shortEscape?, List.lookup_cons, List.lookup_nil] at known
  repeat' split at known
  all_goals simp_all
  all_goals subst known; rfl

private theorem letter_ne_newline (known : shortEscape? c = some letter) : letter ≠ '\n' := by
  rintro rfl
  simp only [shortEscape?, List.lookup_cons, List.lookup_nil] at known
  repeat' split at known
  all_goals simp at known

/-- A character that a literal between double quotes takes as it is. -/
def isPlain (c : Char) : Bool := c != '\x22' && c != '\n' && c != '\\'

/-- The code of a control character has four digits, which are read as the code. -/
private theorem hexDigits_control : ∀ n < 0x20, (Text.hexDigits 4 n).length = 4 ∧
    Text.hexNumber? (Text.hexDigits 4 n) = some n ∧ (Text.hexDigits 4 n).all isPlain = true := by
  -- `all` and not a quantifier, which would be decided over every character that there is.
  decide

private theorem escape_code [CharacterNames] (control : c.toNat < 0x20) (rest : List Char) :
    Text.escape ('u' :: (Text.hexDigits 4 c.toNat ++ rest)) = some ([.char c], 5) := by
  obtain ⟨width, reads, -⟩ := hexDigits_control c.toNat control
  have enough : ¬ (Text.hexDigits 4 c.toNat ++ rest).length < 4 := by
    rw [List.length_append, width]
    omega
  have means : Text.Point.ofCode? c.toNat = some (.char c) := Text.Point.ofCode?_char c
  have escapes : Text.escape ('u' :: (Text.hexDigits 4 c.toNat ++ rest)) =
      Text.hexEscape 4 (Text.hexDigits 4 c.toNat ++ rest) := rfl
  rw [escapes, Text.hexEscape, if_neg enough, List.take_left' width, reads]
  simp [means]

/-- A backslash with what follows it stands for what the escape means. -/
private theorem unescape_escape [CharacterNames] {after : List Char} {meant : List Text.Point}
    {used : Nat} (escapes : Text.escape after = some (meant, used)) :
    Text.unescape ('\\' :: after) = (Text.unescape (after.drop used)).map (meant ++ ·) := by
  rw [Text.unescape, if_neg (by decide), if_pos rfl, escapes]

theorem unescape_written [CharacterNames] (is : Written c written) :
    Text.unescape (written ++ rest) = (Text.unescape rest).map (.char c :: ·) := by
  cases is with
  | letter known => exact unescape_escape (escape_letter known rest)
  | code control =>
    have after : ('u' :: (Text.hexDigits 4 c.toNat ++ rest)).drop 5 = rest := by
      rw [List.drop_succ_cons, List.drop_left' (hexDigits_control c.toNat control).1]
    have escaped := unescape_escape (escape_code control rest)
    rw [after] at escaped
    exact escaped
  | plain notQuote notEscape visible =>
    have noControl : ¬ (c = '\x00' ∨ c = '\r') := by
      rintro (rfl | rfl) <;> exact absurd visible (by decide)
    rw [List.singleton_append, Text.unescape, if_neg noControl, if_neg notEscape]

/-- What is written for a text stands for the text. -/
theorem unescape_body [CharacterNames] (text : List Char) :
    Text.unescape (text.flatMap (quotedChar false)) = some (text.map .char) := by
  induction text with
  | nil => rw [List.flatMap_nil, Text.unescape, List.map_nil]
  | cons c rest ih =>
    rw [List.flatMap_cons, unescape_written (written_quotedChar c), ih, Option.map_some,
      List.map_cons]

/-! ## What stands between the quotes -/

private theorem quoted_append {front : List Char} (plain : front.all isPlain = true)
    (quoted : Symbol.Quoted '\x22' rest) : Symbol.Quoted '\x22' (front ++ rest) := by
  induction front with
  | nil => exact quoted
  | cons c others ih =>
    simp only [List.all_cons, isPlain, Bool.and_eq_true, bne_iff_ne] at plain
    obtain ⟨⟨⟨notQuote, sameLine⟩, notEscape⟩, later⟩ := plain
    exact .plain notQuote sameLine notEscape (ih later)

theorem quoted_written (is : Written c written) (quoted : Symbol.Quoted '\x22' rest) :
    Symbol.Quoted '\x22' (written ++ rest) := by
  cases is with
  | letter known => exact .escape (letter_ne_newline known) quoted
  | code control =>
    exact .escape (by decide) (quoted_append (hexDigits_control c.toNat control).2.2 quoted)
  | plain notQuote notEscape visible =>
    refine .plain notQuote ?_ notEscape quoted
    rintro rfl
    exact absurd visible (by decide)

/-- What is written for a text is the body of a literal. -/
theorem quoted_body (text : List Char) :
    Symbol.Quoted '\x22' (text.flatMap (quotedChar false)) := by
  induction text with
  | nil => exact .nil
  | cons c rest ih =>
    rw [List.flatMap_cons]
    exact quoted_written (written_quotedChar c) ih

end StepTrace.Json
