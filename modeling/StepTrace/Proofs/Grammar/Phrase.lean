import StepTrace.Proofs.Grammar.Columns

/-!
# Phrases

The tokens of an expression are a phrase wherever they stand. The reader comes to the end of a
phrase in front of a closing parenthesis as it does at the end of a line
(`Phrase.read_closed`), and apart from its columns the tree of a phrase depends on the symbols
alone (`Phrase.exists_of_symbols`).
-/

namespace StepTrace

open Run (bind_eq_ok mapError_eq_ok)

namespace Expr

variable {distance stop column : Nat} {expr other : Expr} {tokens others rest : List Token}
  {text : List Char}

/-- Tokens that the grammar derives, with the tree that it builds of them. -/
structure Phrase [CharacterNames] (expr : Expr) (tokens : List Token) : Prop where
  normal : expr.Normal
  spelled : Spells expr tokens

/-! ## Reading -/

theorem Phrase.read [CharacterNames] (phrase : Phrase expr tokens) :
    read stop tokens = .ok (expr, []) :=
  read_spelled phrase.spelled phrase.normal

/-- A closing parenthesis that ends no call ends the phrase before it. -/
theorem Phrase.read_closed [CharacterNames] (phrase : Phrase expr tokens) (column : Nat)
    (rest : List Token) : Expr.read stop (tokens ++ ⟨.rightParen, column⟩ :: rest) =
      .ok (expr, ⟨.rightParen, column⟩ :: rest) := by
  have begun : readOn stop [] none (tokens ++ ⟨.rightParen, column⟩ :: rest) =
      readOn stop (expr.pending ++ []) (some expr.lastOperand) (⟨.rightParen, column⟩ :: rest) :=
    readOn_spelled phrase.spelled phrase.normal (by simp [Awaits]) (by simp)
  have filled : Frame.absorb false (expr.pending ++ []) expr.lastOperand = ([], expr) :=
    absorb_pending phrase.normal (by simp)
  rw [Expr.read, begun, readOn, filled]

/-- What is read is a phrase at the front of the tokens. -/
theorem phrase_of_read [CharacterNames] (reads : Expr.read stop tokens = .ok (expr, rest)) :
    ∃ own, Phrase expr own ∧ tokens = own ++ rest := by
  have reading : Reading [] [] none := Begun.nil
  obtain ⟨normal, own, spelled, whole⟩ := readOn_sound reading reads
  exact ⟨own, ⟨normal, spelled⟩, whole.symm⟩

/-- Tokens are a phrase in one way at most. -/
theorem Phrase.unique [CharacterNames] (phrase : Phrase expr tokens) (again : Phrase other tokens) :
    expr = other := by
  have reads : Expr.read 0 tokens = .ok (expr, []) := phrase.read
  rw [again.read] at reads
  exact (Prod.mk.inj (Except.ok.inj reads)).1.symm

theorem parse_eq_ok_iff_phrase [CharacterNames] :
    parse text = .ok expr ↔ ∃ tokens, Tokens.ofLine text = .ok tokens ∧ Phrase expr tokens.list := by
  constructor
  · intro parsed
    obtain ⟨normal, tokens, scanned, spelled⟩ := spelled_of_parse parsed
    exact ⟨tokens, scanned, normal, spelled⟩
  · rintro ⟨tokens, scanned, phrase⟩
    simp only [parse, bind_eq_ok, mapError_eq_ok]
    exact ⟨tokens, scanned, (expr, []), phrase.read, (), rfl, rfl⟩

theorem Phrase.first [CharacterNames] (phrase : Phrase expr tokens) :
    ∃ first rest, tokens = first :: rest ∧ first.symbol ≠ .rightParen :=
  phrase.spelled.first

/-! ## Trees without their columns -/

/-- A tree with all its columns forgotten. -/
def unplaced : Expr → Expr
  | .literal _ value => .literal 0 value
  | .name _ text => .name 0 text
  | .unary _ sign operand => .unary 0 sign operand.unplaced
  | .binary _ op left right => .binary 0 op left.unplaced right.unplaced
  | .input _ => .input 0
  | .prompt _ text => .prompt 0 text.unplaced

theorem isSum_unplaced : expr.unplaced.IsSum ↔ expr.IsSum := by
  cases expr <;> rfl

theorem isProduct_unplaced : expr.unplaced.IsProduct ↔ expr.IsProduct := by
  cases expr <;> rfl

theorem normal_unplaced : expr.unplaced.Normal ↔ expr.Normal := by
  induction expr with
  | literal | name | input => rfl
  | unary column sign operand ih =>
    simp only [unplaced, Normal, ih, isSum_unplaced, isProduct_unplaced]
  | binary column op left right ihLeft ihRight =>
    simp only [unplaced, Normal, ihLeft, ihRight, isSum_unplaced, isProduct_unplaced]
  | prompt column text ih => exact ih

private theorem exists_token {symbol : Symbol} {symbols : List Symbol}
    (same : tokens.map Token.symbol = symbol :: symbols) :
    ∃ column rest, tokens = ⟨symbol, column⟩ :: rest ∧ rest.map Token.symbol = symbols := by
  obtain ⟨⟨_, column⟩, rest, rfl, rfl, later⟩ := List.map_eq_cons_iff.mp same
  exact ⟨column, rest, rfl, later⟩

/-- Tokens with the same symbols spell the same tree, apart from the columns. By induction on
    the tree, along its tokens. -/
theorem Spells.exists_of_symbols [CharacterNames] (spelled : Spells expr tokens)
    (same : others.map Token.symbol = tokens.map Token.symbol) :
    ∃ other, Spells other others ∧ other.unplaced = expr.unplaced := by
  induction spelled generalizing others with
  | @literal symbol column value denotes =>
    obtain ⟨place, rest, rfl, later⟩ := exists_token same
    obtain rfl := List.map_eq_nil_iff.mp later
    exact ⟨.literal place value, .literal denotes, rfl⟩
  | @name column text =>
    obtain ⟨place, rest, rfl, later⟩ := exists_token same
    obtain rfl := List.map_eq_nil_iff.mp later
    exact ⟨.name place text, .name, rfl⟩
  | @unary column op sign operand tokens signs _ ih =>
    obtain ⟨place, rest, rfl, later⟩ := exists_token same
    obtain ⟨inner, spelledInner, alike⟩ := ih later
    exact ⟨.unary place sign inner, .unary signs spelledInner, by rw [unplaced, unplaced, alike]⟩
  | @binary column op left right first second _ _ ihLeft ihRight =>
    rw [List.map_append] at same
    obtain ⟨before, after, rfl, sameLeft, sameRest⟩ := List.map_eq_append_iff.mp same
    obtain ⟨place, rest, rfl, sameRight⟩ := exists_token sameRest
    obtain ⟨outer, spelledOuter, alikeLeft⟩ := ihLeft sameLeft
    obtain ⟨inner, spelledInner, alikeRight⟩ := ihRight sameRight
    exact ⟨.binary place op outer inner, .binary spelledOuter spelledInner,
      by rw [unplaced, unplaced, alikeLeft, alikeRight]⟩
  | @input column opening closing =>
    obtain ⟨place, _, rfl, call⟩ := exists_token same
    obtain ⟨first, _, rfl, arguments⟩ := exists_token call
    obtain ⟨last, rest, rfl, ends⟩ := exists_token arguments
    obtain rfl := List.map_eq_nil_iff.mp ends
    exact ⟨.input place, .input, rfl⟩
  | @prompt column opening closing text tokens _ ih =>
    obtain ⟨place, _, rfl, call⟩ := exists_token same
    obtain ⟨first, rest, rfl, arguments⟩ := exists_token call
    rw [List.map_append] at arguments
    obtain ⟨own, after, rfl, sameOwn, closes⟩ := List.map_eq_append_iff.mp arguments
    obtain ⟨last, rest, rfl, ends⟩ := exists_token closes
    obtain rfl := List.map_eq_nil_iff.mp ends
    obtain ⟨inner, spelledInner, alike⟩ := ih sameOwn
    exact ⟨.prompt place inner, .prompt spelledInner, by rw [unplaced, unplaced, alike]⟩

/-- Tokens with the symbols of a phrase are one, of the same tree apart from its columns. -/
theorem Phrase.exists_of_symbols [CharacterNames] (phrase : Phrase expr tokens)
    (same : others.map Token.symbol = tokens.map Token.symbol) :
    ∃ other, Phrase other others ∧ other.unplaced = expr.unplaced := by
  obtain ⟨other, spelled, alike⟩ := phrase.spelled.exists_of_symbols same
  have normal : other.Normal := by
    rw [← normal_unplaced, alike, normal_unplaced]
    exact phrase.normal
  exact ⟨other, ⟨normal, spelled⟩, alike⟩

/-! ## Phrases farther to the right -/

theorem Phrase.shifted [CharacterNames] (phrase : Phrase expr tokens) :
    Phrase (expr.shifted distance) (tokens.map (Token.shifted distance)) :=
  ⟨phrase.normal.shifted, phrase.spelled.shifted⟩

theorem Phrase.of_shifted [CharacterNames]
    (phrase : Phrase expr (tokens.map (Token.shifted distance))) :
    ∃ tree, Phrase tree tokens ∧ expr = tree.shifted distance := by
  have same : tokens.map Token.symbol = (tokens.map (Token.shifted distance)).map Token.symbol := by
    rw [List.map_map]
    rfl
  obtain ⟨tree, phraseTree, -⟩ := phrase.exists_of_symbols same
  exact ⟨tree, phraseTree, phrase.unique phraseTree.shifted⟩

end Expr

end StepTrace
