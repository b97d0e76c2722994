import StepTrace.Proofs.SignedNumeral
import StepTrace.Proofs.Statement.Shapes

/-!
# Lines that assign

A name, an equals sign and the text of an expression read as the assignment of this
expression. Where the expression stands in the line shows in its columns only.
-/

namespace StepTrace

open Run (map_eq_ok)

variable {distance : Nat} {expr : Expr} {tokens : List Token}

/-! ## The tokens of an assignment -/

/-- The tokens of an assignment are its name, its equals sign and the tokens of the text after
    it, farther to the right. -/
theorem Tokens.scanFrom_assignment {text : List Char} {target : String} (line : List Char)
    (named : IsName target.toList) (scanned : Tokens.scanFrom text 1 text = .ok tokens) :
    Tokens.scanFrom line 1 (target.toList ++ ' ' :: '=' :: ' ' :: text) =
      .ok (⟨.name target, 1⟩ :: ⟨.equals, target.length + 2⟩ ::
        tokens.map (Token.shifted (target.length + 3))) := by
  have space : Clear isNamePart (' ' :: '=' :: ' ' :: text) := by
    rintro c ⟨⟩
    decide
  have formedName : (Symbol.name target).Formed := named
  have formedEquals : Symbol.equals.Formed := trivial
  have ends : Symbol.equals.Ends (' ' :: text) := trivial
  have name := Tokens.scanFrom_lexeme line 1 formedName space
  have equals := Tokens.scanFrom_lexeme line (target.length + 2) formedEquals ends
  have rest := Tokens.scanFrom_shifted line (target.length + 3) scanned
  simp only [Symbol.lexeme, String.length_toList, List.length_singleton,
    List.singleton_append] at name equals
  have second : 1 + target.length + 1 = target.length + 2 := by omega
  have third : target.length + 2 + 1 + 1 = 1 + (target.length + 3) := by omega
  rw [name, Tokens.scanFrom_separator _ _ _ (by decide), second, equals,
    Tokens.scanFrom_separator _ _ _ (by decide), third, rest]
  rfl

namespace Statement

variable {target : String}

/-- A name, an equals sign and an expression. -/
theorem ofLine_assignment [CharacterNames] {text : List Char} (named : IsName target.toList)
    (parsed : Expr.parse text = .ok expr) (notCall : expr.call? = none) :
    ofLine (target.toList ++ ' ' :: '=' :: ' ' :: text) =
      .ok (.assignment target (expr.shifted (target.length + 3))) := by
  obtain ⟨tokens, scannedText, phrase⟩ := Expr.parse_eq_ok_iff_phrase.mp parsed
  obtain ⟨list, scanned, rfl⟩ := map_eq_ok.mp scannedText
  have whole :=
    Tokens.scanFrom_assignment (target.toList ++ ' ' :: '=' :: ' ' :: text) named scanned
  exact ofLine_eq_ok_iff.mpr
    ⟨_, map_eq_ok.mpr ⟨_, whole, rfl⟩, .assignment phrase.shifted (Expr.call?_shifted notCall)⟩

end Statement

/-! ## Literals -/

/-- What denotes a value, alone, reads as its literal. -/
theorem Expr.parse_lexeme [CharacterNames] {symbol : Symbol} {value : Value}
    (formed : symbol.Formed)
    (denotes : Denotes symbol value) : Expr.parse symbol.lexeme = .ok (.literal 1 value) := by
  have scanned := Tokens.scanFrom_lexeme symbol.lexeme 1 formed Symbol.ends_nil
  rw [List.append_nil, Tokens.scanFrom_nil] at scanned
  exact Expr.parse_eq_ok_iff_phrase.mpr
    ⟨_, map_eq_ok.mpr ⟨_, scanned, rfl⟩, trivial, .literal denotes⟩

theorem isNamePart_of_mem_toDigits {n : Nat} {c : Char} (member : c ∈ Nat.toDigits 10 n) :
    isNamePart c = true :=
  isNamePart_iff.mpr (.inr (Char.isDigit_iff_toNat.mp
    (Nat.isDigit_of_mem_toDigits (by decide) (Nat.le_refl 10) member)))

/-- The digits of a number read as its literal. -/
theorem Expr.parse_toDigits [CharacterNames] {n : Nat}
    (short : (Nat.toDigits 10 n).length ≤ Text.digitLimit) :
    Expr.parse (Nat.toDigits 10 n) = .ok (.literal 1 (.int n)) := by
  have formed : Symbol.Formed (.number ⟨Nat.toDigits 10 n, none, none⟩) := Numeral.formed_toDigits n
  have denotes : Denotes (.number ⟨Nat.toDigits 10 n, none, none⟩)
      (.int (Text.natOfDigits (Nat.toDigits 10 n))) := .integer rfl short
  rw [Text.natOfDigits_toDigits] at denotes
  have reads := Expr.parse_lexeme formed denotes
  simpa [Symbol.lexeme, Numeral.lexeme] using reads

/-! ## The lines -/

/-- The text of a line that assigns an expression, behind white space. -/
def settingText (indentation : List Char) (target : String) (text : List Char) : List Char :=
  indentation ++ (target.toList ++ ' ' :: '=' :: ' ' :: text)

section
variable {indentation text : List Char} {target : String}

private theorem clear_of_named {rest : List Char} (named : IsName target.toList) :
    Clear Text.isBlank (target.toList ++ rest) := by
  obtain ⟨first, others, spelled, starts, -⟩ := named.exists_cons
  rw [spelled]
  rintro c ⟨⟩
  exact not_isBlank_of_isNamePart (isNamePart_iff.mpr (.inl starts))

/-- Without its white space the line is the assignment. -/
theorem content_setting (number : Nat) (blank : ∀ c ∈ indentation, Text.isBlank c = true)
    (named : IsName target.toList) {last : Char} (ends : text.getLast? = some last)
    (visible : Text.isBlank last = false) :
    Line.content ⟨number, settingText indentation target text⟩ =
      target.toList ++ ' ' :: '=' :: ' ' :: text := by
  have endsToo : (target.toList ++ ' ' :: '=' :: ' ' :: text).getLast? = some last := by
    simp [List.getLast?_cons, ends]
  rw [Line.content, settingText, Text.trim_append_blank blank]
  exact Text.trim_of_visible (clear_of_named named) endsToo visible

/-- The line ends where its text does, if the parts of it hold no line end. -/
theorem newline_not_mem_settingText (free : '\n' ∉ indentation) (named : IsName target.toList)
    (freeText : '\n' ∉ text) : '\n' ∉ settingText indentation target text := by
  intro member
  simp only [settingText, List.mem_append, List.mem_cons] at member
  rcases member with inside | name | space | equals | space | after
  · exact free inside
  · cases named.part name
  · cases space
  · cases equals
  · cases space
  · exact freeText after

theorem indent_setting (number : Nat) (blank : ∀ c ∈ indentation, Text.isBlank c = true)
    (named : IsName target.toList) :
    Line.indent ⟨number, settingText indentation target text⟩ = indentation.length :=
  Text.indent_append blank (clear_of_named named)

end

end StepTrace
