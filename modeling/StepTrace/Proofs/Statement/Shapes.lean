import StepTrace.Proofs.Grammar.Phrase
import StepTrace.Proofs.Token.Parts

/-!
# The shapes of a line

A line reads as a statement exactly where its tokens have the shape of one
(`ofLine_eq_ok_iff`): each reader accepts exactly its own shape. The expression of the line is
the phrase that stands in the shape, and the text that is kept of a loop's count reads as the
count, farther to the left.
-/

namespace StepTrace.Statement

open StepTrace.Expr (Phrase phrase_of_read expectEnd_eq_ok parse_eq_ok_iff_phrase)
open Run (bind_eq_ok map_eq_ok mapError_eq_ok)

variable {line : List Char} {stop column : Nat} {target : String} {tokens rest : List Token}
  {statement : Statement} {symbol : Symbol}

/-- The shapes of a line, by its tokens and the statement that they stand for: a name that is
    set to a phrase, a loop over a phrase, and a print of nothing or of a phrase. -/
inductive Shaped [CharacterNames] (line : List Char) : List Token → Statement → Prop
  | question {first second : Nat} {target : String} {own : List Token} {value : Expr}
      {prompt : Option Expr} (phrase : Phrase value own) (call : value.call? = some prompt) :
      Shaped line (⟨.name target, first⟩ :: ⟨.equals, second⟩ :: own) (.question target prompt)
  | assignment {first second : Nat} {target : String} {own : List Token} {value : Expr}
      (phrase : Phrase value own) (notCall : value.call? = none) :
      Shaped line (⟨.name target, first⟩ :: ⟨.equals, second⟩ :: own) (.assignment target value)
  | loop {first second third fourth opening closing last : Nat} {var : String} {own : List Token}
      {count : Expr} (phrase : Phrase count own) :
      Shaped line
        (⟨.name "for", first⟩ :: ⟨.name var, second⟩ :: ⟨.name "in", third⟩ ::
          ⟨.name "range", fourth⟩ :: ⟨.leftParen, opening⟩ ::
            (own ++ [⟨.rightParen, closing⟩, ⟨.colon, last⟩]))
        (.loop var count (Text.trim ((line.take (closing - 1)).drop opening)))
  | blank {first opening closing : Nat} :
      Shaped line [⟨.name "print", first⟩, ⟨.leftParen, opening⟩, ⟨.rightParen, closing⟩] (.print none)
  | print {first opening closing : Nat} {own : List Token} {value : Expr}
      (phrase : Phrase value own) :
      Shaped line (⟨.name "print", first⟩ :: ⟨.leftParen, opening⟩ :: (own ++ [⟨.rightParen, closing⟩]))
        (.print (some value))

/-! ## What each reader accepts -/

theorem expect_eq_ok : expect stop symbol tokens = .ok (column, rest) ↔
    tokens = ⟨symbol, column⟩ :: rest := by
  cases tokens with
  | nil => simp [expect]
  | cons token others =>
    obtain ⟨found, place⟩ := token
    by_cases here : found = symbol
    · simp [expect, here]
    · simp [expect, here]

theorem readAssignment_eq_ok [CharacterNames] : readAssignment line stop target tokens = .ok
    statement ↔ ∃ value, Phrase value tokens ∧
      statement = value.call?.elim (assignment target value) (question target) := by
  constructor
  · intro reads
    unfold readAssignment at reads
    split at reads
    · cases reads
    · simp only [bind_eq_ok] at reads
      obtain ⟨⟨value, rest⟩, readsValue, _, ended, returned⟩ := reads
      obtain rfl := expectEnd_eq_ok.mp ended
      obtain ⟨own, phrase, whole⟩ := phrase_of_read readsValue
      rw [List.append_nil] at whole
      exact ⟨value, whole ▸ phrase, (Except.ok.inj returned).symm⟩
  · rintro ⟨value, phrase, rfl⟩
    obtain ⟨first, others, rfl, -⟩ := phrase.first
    rw [readAssignment, phrase.read]
    · rfl
    · simp

theorem readLoop_eq_ok [CharacterNames] : readLoop line stop tokens = .ok statement ↔
    ∃ var second third fourth opening own closing last count,
      tokens = ⟨.name var, second⟩ :: ⟨.name "in", third⟩ :: ⟨.name "range", fourth⟩ ::
        ⟨.leftParen, opening⟩ :: (own ++ [⟨.rightParen, closing⟩, ⟨.colon, last⟩]) ∧
      Phrase count own ∧
        statement = loop var count (Text.trim ((line.take (closing - 1)).drop opening)) := by
  constructor
  · intro reads
    simp only [readLoop, bind_eq_ok] at reads
    obtain ⟨⟨var, _⟩, name, ⟨third, _⟩, wordIn, ⟨fourth, _⟩, wordRange, ⟨opening, part⟩, paren,
      reads⟩ := reads
    obtain ⟨second, rfl⟩ := expectName_eq_ok.mp name
    obtain rfl := expect_eq_ok.mp wordIn
    obtain rfl := expect_eq_ok.mp wordRange
    obtain rfl := expect_eq_ok.mp paren
    split at reads
    · cases reads
    · simp only [bind_eq_ok] at reads
      obtain ⟨⟨count, _⟩, readsCount, ⟨closing, _⟩, closes, ⟨last, rest⟩, colon, _, ended,
        returned⟩ := reads
      obtain ⟨own, phrase, rfl⟩ := phrase_of_read readsCount
      obtain rfl := expect_eq_ok.mp closes
      obtain rfl := expect_eq_ok.mp colon
      obtain rfl := expectEnd_eq_ok.mp ended
      exact ⟨var, second, third, fourth, opening, own, closing, last, count, rfl, phrase,
        (Except.ok.inj returned).symm⟩
  · rintro ⟨var, second, third, fourth, opening, own, closing, last, count, rfl, phrase, rfl⟩
    obtain ⟨first, others, rfl, notParen⟩ := phrase.first
    have reads := @Phrase.read_closed stop count _ _ phrase closing [⟨.colon, last⟩]
    simp only [readLoop, bind_eq_ok]
    refine ⟨_, expectName_eq_ok.mpr ⟨_, rfl⟩, _, expect_eq_ok.mpr rfl, _, expect_eq_ok.mpr rfl, _,
      expect_eq_ok.mpr rfl, ?_⟩
    split
    · next same =>
      obtain ⟨rfl, -⟩ := List.cons.inj same
      exact absurd rfl notParen
    · simp only [bind_eq_ok]
      exact ⟨_, reads, _, expect_eq_ok.mpr rfl, _, expect_eq_ok.mpr rfl, _, rfl, rfl⟩

theorem readPrint_eq_ok [CharacterNames] : readPrint stop tokens = .ok statement ↔
    ((∃ closing, tokens = [⟨.rightParen, closing⟩]) ∧ statement = print none) ∨
      ∃ own closing value, tokens = own ++ [⟨.rightParen, closing⟩] ∧ Phrase value own ∧
        statement = print (some value) := by
  constructor
  · intro reads
    unfold readPrint at reads
    split at reads
    · obtain ⟨_, ended, returned⟩ := bind_eq_ok.mp reads
      obtain rfl := expectEnd_eq_ok.mp ended
      exact .inl ⟨⟨_, rfl⟩, (Except.ok.inj returned).symm⟩
    · simp only [bind_eq_ok] at reads
      obtain ⟨⟨value, _⟩, readsValue, ⟨closing, rest⟩, closes, _, ended, returned⟩ := reads
      obtain ⟨own, phrase, rfl⟩ := phrase_of_read readsValue
      obtain rfl := expect_eq_ok.mp closes
      obtain rfl := expectEnd_eq_ok.mp ended
      exact .inr ⟨own, closing, value, rfl, phrase, (Except.ok.inj returned).symm⟩
  · rintro (⟨⟨closing, rfl⟩, rfl⟩ | ⟨own, closing, value, rfl, phrase, rfl⟩)
    · rfl
    · obtain ⟨first, others, rfl, notParen⟩ := phrase.first
      have reads := @Phrase.read_closed stop value _ _ phrase closing []
      unfold readPrint
      split
      · next same =>
        obtain ⟨rfl, -⟩ := List.cons.inj same
        exact absurd rfl notParen
      · simp only [bind_eq_ok]
        exact ⟨_, reads, _, expect_eq_ok.mpr rfl, _, rfl, rfl⟩

/-! ## What a line reads as -/

private theorem shaped_of_assignment [CharacterNames] {first second : Nat} {own : List Token}
    {value : Expr} (phrase : Phrase value own) :
    Shaped line (⟨.name target, first⟩ :: ⟨.equals, second⟩ :: own)
      (value.call?.elim (assignment target value) (question target)) := by
  cases call : value.call? with
  | none => exact .assignment phrase call
  | some prompt => exact .question phrase call

/-- A line reads as a statement exactly where its tokens have the shape of the statement. -/
theorem ofLine_eq_ok_iff [CharacterNames] : ofLine line = .ok statement ↔
    ∃ tokens, Tokens.ofLine line = .ok tokens ∧ Shaped line tokens.list statement := by
  simp only [ofLine, bind_eq_ok, mapError_eq_ok]
  refine exists_congr fun tokens => and_congr_right fun _ => ?_
  obtain ⟨list, stop⟩ := tokens
  constructor
  · intro reads
    split at reads
    · next target first second own start =>
      obtain rfl : list = _ := start
      obtain ⟨value, phrase, rfl⟩ := readAssignment_eq_ok.mp reads
      exact shaped_of_assignment phrase
    · next first rest _ start =>
      obtain rfl : list = _ := start
      obtain ⟨var, second, third, fourth, opening, own, closing, last, count, rfl, phrase, rfl⟩ :=
        readLoop_eq_ok.mp reads
      exact .loop phrase
    · next first opening rest _ _ start =>
      obtain rfl : list = _ := start
      rcases readPrint_eq_ok.mp reads with ⟨⟨closing, rfl⟩, rfl⟩ |
        ⟨own, closing, value, rfl, phrase, rfl⟩
      · exact .blank
      · exact .print phrase
    · cases reads
  · rintro (@⟨first, second, target, own, value, prompt, phrase, call⟩ |
      @⟨first, second, target, own, value, phrase, notCall⟩ | ⟨phrase⟩ | _ | ⟨phrase⟩)
    · exact readAssignment_eq_ok.mpr ⟨value, phrase, by rw [call]; rfl⟩
    · exact readAssignment_eq_ok.mpr ⟨value, phrase, by rw [notCall]; rfl⟩
    · exact readLoop_eq_ok.mpr ⟨_, _, _, _, _, _, _, _, _, rfl, phrase, rfl⟩
    · rfl
    · exact readPrint_eq_ok.mpr (.inr ⟨_, _, _, rfl, phrase, rfl⟩)

/-! ## The variable that a line sets -/

/-- The variable that a statement sets, at once or when it is answered. -/
def target? : Statement → Option String
  | .question target _ | .loop target _ _ | .assignment target _ => some target
  | .print _ => none

/-- The variable that a line sets is named by one of its tokens, so it has a name. -/
theorem ofLine_isName [CharacterNames] (reads : ofLine line = .ok statement)
    (sets : statement.target? = some target) : IsName target.toList := by
  obtain ⟨tokens, scanned, shaped⟩ := ofLine_eq_ok_iff.mp reads
  have written : ∃ column, ⟨.name target, column⟩ ∈ tokens.list := by
    generalize tokens.list = own at shaped
    cases shaped with
    | question | assignment =>
      obtain rfl := Option.some.inj sets
      exact ⟨_, List.mem_cons_self⟩
    | loop =>
      obtain rfl := Option.some.inj sets
      exact ⟨_, List.mem_cons_of_mem _ List.mem_cons_self⟩
    | blank | print => cases sets
  obtain ⟨column, member⟩ := written
  exact Tokens.formed_of_ofLine scanned member

/-! ## What the shapes say -/

/-- A text has the symbols of some tokens. -/
def Writes (text : List Char) (own : List Token) : Prop :=
  ∃ tokens, Tokens.ofLine text = .ok tokens ∧ tokens.list.map Token.symbol = own.map Token.symbol

/-- A text that has the symbols of some tokens is an expression where they are a phrase. -/
theorem phrase_iff_of_writes [CharacterNames] {text : List Char} {own : List Token}
    (writes : Writes text own) :
    (∃ value, Phrase value own) ↔ ∃ tree, Expr.parse text = .ok tree := by
  obtain ⟨tokens, scanned, same⟩ := writes
  constructor
  · rintro ⟨value, phrase⟩
    obtain ⟨tree, phraseTree, -⟩ := phrase.exists_of_symbols same
    exact ⟨tree, parse_eq_ok_iff_phrase.mpr ⟨tokens, scanned, phraseTree⟩⟩
  · rintro ⟨tree, parsed⟩
    obtain ⟨found, scannedAgain, phraseTree⟩ := parse_eq_ok_iff_phrase.mp parsed
    obtain rfl := Except.ok.inj (scanned.symm.trans scannedAgain)
    obtain ⟨value, phrase, -⟩ := phraseTree.exists_of_symbols same.symm
    exact ⟨value, phrase⟩

/-- Their trees differ in the columns only. -/
theorem unplaced_of_writes [CharacterNames] {text : List Char} {own : List Token}
    {value tree : Expr} (writes : Writes text own) (phrase : Phrase value own)
    (parsed : Expr.parse text = .ok tree) :
    value.unplaced = tree.unplaced := by
  obtain ⟨tokens, scanned, same⟩ := writes
  obtain ⟨found, scannedAgain, phraseTree⟩ := parse_eq_ok_iff_phrase.mp parsed
  obtain rfl := Except.ok.inj (scanned.symm.trans scannedAgain)
  obtain ⟨other, phraseOther, alike⟩ := phraseTree.exists_of_symbols same.symm
  obtain rfl := phrase.unique phraseOther
  exact alike

/-- Every part of a line's tokens is written by a part of the line. -/
theorem exists_writes {tokens : Tokens} {before own after : List Token}
    (scanned : Tokens.ofLine line = .ok tokens) (parts : tokens.list = before ++ (own ++ after)) :
    ∃ text, text <:+: line ∧ Writes text own := by
  obtain ⟨list, scannedList, rfl⟩ := map_eq_ok.mp scanned
  obtain rfl : list = _ := parts
  obtain ⟨text, found, distance, inside, scannedText, rfl⟩ := Tokens.ofLine_part scannedList
  refine ⟨text, inside, found, scannedText, ?_⟩
  rw [List.map_map]
  rfl

/-- The text that is kept of a loop's count reads as the count, farther to the left. -/
theorem parse_countText [CharacterNames] {var : String} {count : Expr} {text : List Char}
    (reads : ofLine line = .ok (.loop var count text)) :
    ∃ tree distance, Expr.parse text = .ok tree ∧ count = tree.shifted distance := by
  obtain ⟨tokens, scanned, shaped⟩ := ofLine_eq_ok_iff.mp reads
  obtain ⟨list, scannedList, rfl⟩ := map_eq_ok.mp scanned
  generalize all : Tokens.list ⟨list, line.length + 1⟩ = own at shaped
  obtain rfl : list = own := all
  cases shaped with
  | @loop first second third fourth opening closing last _ own _ phrase =>
    obtain ⟨found, distance, scannedText, rfl⟩ :=
      @Tokens.ofLine_between line
        [⟨.name "for", first⟩, ⟨.name var, second⟩, ⟨.name "in", third⟩, ⟨.name "range", fourth⟩]
        [⟨.colon, last⟩] ⟨.leftParen, opening⟩ ⟨.rightParen, closing⟩ own rfl scannedList
    obtain ⟨tree, phraseTree, rfl⟩ := phrase.of_shifted
    exact ⟨tree, distance, parse_eq_ok_iff_phrase.mpr ⟨found, scannedText, phraseTree⟩, rfl⟩

/-- What the shapes say about the reading of a line. -/
structure ReadByShape [CharacterNames] (line : List Char) : Prop where
  /-- A line reads as a statement exactly where its tokens have the shape of the statement. -/
  accepted : ∀ statement, ofLine line = .ok statement ↔
    ∃ tokens, Tokens.ofLine line = .ok tokens ∧ Shaped line tokens.list statement
  /-- A name and an equals sign begin a question or an assignment, whatever the name is. -/
  named : ∀ tokens target first second own statement, Tokens.ofLine line = .ok tokens →
    tokens.list = ⟨.name target, first⟩ :: ⟨.equals, second⟩ :: own → ofLine line = .ok statement →
      (∃ prompt, statement = .question target prompt) ∨ ∃ value, statement = .assignment target value
  /-- No call of `input` is assigned. -/
  assigned : ∀ target value, ofLine line = .ok (.assignment target value) → value.call? = none
  /-- Every part of the tokens is written by a part of the line. -/
  written : ∀ tokens before own after, Tokens.ofLine line = .ok tokens →
    tokens.list = before ++ (own ++ after) → ∃ text, text <:+: line ∧ Writes text own
  /-- A part of the tokens is a phrase where a text that writes it is an expression. -/
  parsed : ∀ own text, Writes text own →
    ((∃ value, Phrase value own) ↔ ∃ tree, Expr.parse text = .ok tree)
  /-- The tree of the phrase is that of the text, apart from the columns. -/
  embedded : ∀ own text value tree, Writes text own → Phrase value own →
    Expr.parse text = .ok tree → value.unplaced = tree.unplaced
  /-- The text of a count is that of its tree, all columns of which are shifted alike. -/
  counted : ∀ var count text, ofLine line = .ok (.loop var count text) →
    ∃ tree distance, Expr.parse text = .ok tree ∧ count = tree.shifted distance

/-- Every line is read by its shape. -/
theorem ofLine_readByShape [CharacterNames] (line : List Char) : ReadByShape line where
  accepted := fun _ => ofLine_eq_ok_iff
  named := by
    intro tokens target first second own statement scanned start reads
    obtain ⟨found, scannedAgain, shaped⟩ := ofLine_eq_ok_iff.mp reads
    obtain rfl := Except.ok.inj (scanned.symm.trans scannedAgain)
    rw [start] at shaped
    cases shaped with
    | question => exact .inl ⟨_, rfl⟩
    | assignment => exact .inr ⟨_, rfl⟩
  assigned := by
    intro target value reads
    obtain ⟨tokens, -, shaped⟩ := ofLine_eq_ok_iff.mp reads
    generalize tokens.list = own at shaped
    cases shaped with
    | assignment phrase notCall => exact notCall
  written := fun _ _ _ _ scanned parts => exists_writes scanned parts
  parsed := fun _ _ writes => phrase_iff_of_writes writes
  embedded := fun _ _ _ _ writes phrase parsed => unplaced_of_writes writes phrase parsed
  counted := fun _ _ _ reads => parse_countText reads

end StepTrace.Statement
