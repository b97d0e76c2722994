import StepTrace.Proofs.Grammar.Columns
import StepTrace.Proofs.Token.Extent

/-!
# Tokens of parts of a line

The tokens of a line stand in it one after the other. Those between two others are the tokens
of the text between them, farther to the left (`ofLine_between`), and a comment at the end of a
line adds none (`scanFrom_commented`).
-/

namespace StepTrace

namespace Tokens

open Run (map_eq_ok)
open Text (isBlank)

variable {line other text front core tail more : List Char} {column : Nat}
  {tokens first rest : List Token} {token last : Token}

/-! ## Places -/

/-- A token stands in the text at its column, and the later ones are read from what follows. -/
theorem scanFrom_split (scanned : scanFrom line column text = .ok (first ++ token :: rest)) :
    ∃ before after, text = before ++ (token.symbol.lexeme ++ after) ∧
      token.column = column + before.length ∧ token.symbol.Formed ∧
      scanFrom line (token.column + token.symbol.lexeme.length) after = .ok rest := by
  generalize all : first ++ token :: rest = tokens at scanned
  fun_induction scanFrom line column text generalizing first tokens with
  | case1 | case3 =>
    obtain rfl := Except.ok.inj scanned
    simp at all
  | case2 column c text _ ih =>
    obtain ⟨before, after, rfl, place, formed, later⟩ := ih _ all scanned
    exact ⟨c :: before, after, rfl, by simp [place]; omega, formed, later⟩
  | case4 column c text _ _ symbol after read ih =>
    obtain ⟨others, scannedOthers, rfl⟩ := map_eq_ok.mp scanned
    obtain ⟨whole, formed, -⟩ := Symbol.scan_eq_some_iff.mp read
    cases first with
    | nil =>
      obtain ⟨rfl, rfl⟩ := List.cons.inj all
      exact ⟨[], after, whole, rfl, formed, scannedOthers⟩
    | cons head others =>
      obtain ⟨rfl, same⟩ := List.cons.inj all
      obtain ⟨before, later, rfl, place, rest⟩ := ih _ same scannedOthers
      refine ⟨symbol.lexeme ++ before, later, by rw [whole, List.append_assoc], ?_, rest⟩
      rw [place, List.length_append]
      omega
  | case5 => cases scanned

/-- Every token of a line is formed. -/
theorem formed_of_ofLine {tokens : Tokens} (scanned : ofLine line = .ok tokens)
    (member : token ∈ tokens.list) : token.symbol.Formed := by
  obtain ⟨list, scannedList, rfl⟩ := map_eq_ok.mp scanned
  obtain ⟨first, rest, whole⟩ := List.append_of_mem member
  obtain rfl : list = _ := whole
  obtain ⟨-, -, -, -, formed, -⟩ := scanFrom_split scannedList
  exact formed

/-- A symbol that what follows does not continue is a token where it stands. -/
theorem scanFrom_lexeme {symbol : Symbol} {rest : List Char} (line : List Char) (column : Nat)
    (formed : symbol.Formed) (ends : symbol.Ends rest) :
    scanFrom line column (symbol.lexeme ++ rest) =
      (scanFrom line (column + symbol.lexeme.length) rest).map (⟨symbol, column⟩ :: ·) := by
  have read : Symbol.scan (symbol.lexeme ++ rest) = some (symbol, rest) :=
    Symbol.scan_eq_some_iff.mpr ⟨rfl, formed, ends⟩
  obtain ⟨first, others, spelled⟩ := List.exists_cons_of_ne_nil (Symbol.scan_append read).2
  have visible : isBlank first = false := formed.visible.1 first (by simp [spelled])
  have starts : isSeparator first = false := by
    refine Bool.eq_false_iff.mpr fun separator => ?_
    simp only [isSeparator, Bool.or_eq_true, beq_iff_eq] at separator
    rcases separator with ((rfl | rfl) | rfl) | rfl <;> cases visible
  have noComment : first ≠ '#' := by
    rintro rfl
    rw [spelled, List.cons_append, Symbol.scan,
      Symbol.numeralScan_eq_none (by decide) (by decide)] at read
    cases read
  have whole : symbol.lexeme ++ rest = first :: (others ++ rest) := by rw [spelled, List.cons_append]
  rw [whole] at read ⊢
  exact scanFrom_symbol _ _ starts noComment read

/-- White space in front of the first token is skipped. -/
theorem scanFrom_of_blank (blank : ∀ c ∈ front, isBlank c = true)
    (scanned : scanFrom line column (front ++ text) = .ok tokens) :
    scanFrom line (column + front.length) text = .ok tokens := by
  induction front generalizing column with
  | nil => exact scanned
  | cons c front ih =>
    obtain ⟨here, later⟩ := List.forall_mem_cons.mp blank
    by_cases separator : isSeparator c = true
    · rw [List.cons_append, scanFrom_separator _ _ _ separator] at scanned
      have next := ih later scanned
      rwa [Nat.add_assoc, Nat.add_comm 1] at next
    · have starts : isSeparator c = false := by simpa using separator
      have noComment : c ≠ '#' := by
        rintro rfl
        exact absurd here (by decide)
      cases read : Symbol.scan (c :: (front ++ text)) with
      | none =>
        rw [List.cons_append, scanFrom_refused _ _ starts noComment read] at scanned
        cases scanned
      | some found =>
        obtain ⟨whole, formed, -⟩ := Symbol.scan_eq_some_iff.mp read
        have nonempty := (Symbol.scan_append read).2
        obtain ⟨first, others, spelled⟩ := List.exists_cons_of_ne_nil nonempty
        rw [spelled] at whole
        obtain ⟨rfl, -⟩ := List.cons.inj whole
        have visible := formed.visible.1 c (by simp [spelled])
        simp [here] at visible

/-! ## Other places -/

/-- The same text farther to the right has its tokens there. -/
theorem scanFrom_shifted {line text : List Char} {column : Nat} (other : List Char)
    (distance : Nat) (scanned : scanFrom line column text = .ok tokens) :
    scanFrom other (column + distance) text = .ok (tokens.map (Token.shifted distance)) := by
  fun_induction scanFrom line column text generalizing tokens with
  | case1 =>
    obtain rfl := Except.ok.inj scanned
    exact scanFrom_nil _ _
  | case2 column c rest separator ih =>
    rw [scanFrom_separator _ _ _ separator, Nat.add_right_comm]
    exact ih scanned
  | case3 =>
    obtain rfl := Except.ok.inj scanned
    exact scanFrom_comment _ _ _
  | case4 column c rest starts comment symbol after read ih =>
    obtain ⟨later, scannedLater, rfl⟩ := map_eq_ok.mp scanned
    rw [scanFrom_symbol _ _ (by simpa using starts) comment read, Nat.add_right_comm,
      ih scannedLater]
    rfl
  | case5 => cases scanned

/-- The same text farther to the left has its tokens there. -/
theorem scanFrom_of_shifted (other : List Char) {distance : Nat}
    (scanned : scanFrom line (column + distance) text = .ok tokens) :
    ∃ own, scanFrom other column text = .ok own ∧ tokens = own.map (Token.shifted distance) := by
  generalize start : column + distance = place at scanned
  fun_induction scanFrom line place text generalizing tokens column with
  | case1 =>
    obtain rfl := Except.ok.inj scanned
    exact ⟨[], scanFrom_nil _ _, rfl⟩
  | case2 place c rest separator ih =>
    rw [scanFrom_separator _ _ _ separator]
    exact ih (by omega) scanned
  | case3 =>
    obtain rfl := Except.ok.inj scanned
    exact ⟨[], scanFrom_comment _ _ _, rfl⟩
  | case4 place c rest starts comment symbol after read ih =>
    obtain ⟨later, scannedLater, rfl⟩ := map_eq_ok.mp scanned
    have place' : column + symbol.lexeme.length + distance = place + symbol.lexeme.length := by omega
    obtain ⟨own, ownLater, rfl⟩ := ih place' scannedLater
    rw [scanFrom_symbol _ _ (by simpa using starts) comment read, ownLater]
    exact ⟨⟨symbol, column⟩ :: own, rfl, by simp [Token.shifted, start]⟩
  | case5 => cases scanned

/-! ## Cutting a line -/

/-- A symbol that ends before the white space after a part, or in it, ends in the part. -/
private theorem exists_of_lexeme_append {symbol : Symbol} {after : List Char}
    (formed : symbol.Formed) (blank : ∀ c ∈ tail, isBlank c = true)
    (whole : symbol.lexeme ++ after = core ++ (tail ++ more))
    (short : symbol.lexeme.length ≤ core.length + tail.length) :
    ∃ left, core = symbol.lexeme ++ left ∧ after = left ++ (tail ++ more) := by
  rcases List.append_eq_append_iff.mp whole with ⟨left, rfl, same⟩ | ⟨further, reaches, same⟩
  · exact ⟨left, rfl, same⟩
  · rcases List.eq_nil_or_concat further with rfl | ⟨front, c, rfl⟩
    · exact ⟨[], by simpa using reaches.symm, same.symm⟩
    · rw [List.concat_eq_append] at reaches same
      have inTail : front ++ [c] <+: tail := by
        refine List.prefix_of_prefix_length_le ⟨after, same.symm⟩ (List.prefix_append tail more) ?_
        rw [reaches, List.length_append] at short
        omega
      have last : symbol.lexeme.getLast? = some c := by
        rw [reaches, ← List.append_assoc, List.getLast?_concat]
      have visible := formed.visible.2 c last
      rw [blank c (inTail.subset (by simp))] at visible
      cases visible

/-- The tokens of a line up to one that follows a part and white space are those of the part. -/
theorem scanFrom_cut (other : List Char) (blank : ∀ c ∈ tail, isBlank c = true)
    (place : last.column = column + (core.length + tail.length))
    (scanned : scanFrom line column (core ++ (tail ++ more)) = .ok (first ++ last :: rest)) :
    scanFrom other column core = .ok first := by
  have beyond : ∀ {first : List Token} {column : Nat} {text : List Char},
      scanFrom line column text = .ok (first ++ last :: rest) → column ≤ last.column := by
    intro first column text scanned
    obtain ⟨before, -, -, place, -⟩ := scanFrom_split scanned
    omega
  generalize whole : core ++ (tail ++ more) = text at scanned
  generalize all : first ++ last :: rest = tokens at scanned
  fun_induction scanFrom line column text generalizing core tail first tokens with
  | case1 | case3 =>
    obtain rfl := Except.ok.inj scanned
    simp at all
  | case2 column c text separator ih =>
    subst all
    have reaches := beyond scanned
    cases core with
    | cons head core =>
      obtain ⟨rfl, same⟩ := List.cons.inj whole
      rw [scanFrom_separator _ _ _ separator]
      have place' : last.column = column + 1 + (core.length + tail.length) := by
        simp at place
        omega
      exact ih blank place' same _ rfl scanned
    | nil =>
      cases tail with
      | nil =>
        simp at place
        omega
      | cons head tail =>
        obtain ⟨rfl, same⟩ := List.cons.inj whole
        have place' : last.column = column + 1 + (([] : List Char).length + tail.length) := by
          simp at place ⊢
          omega
        rw [scanFrom_nil, ← scanFrom_nil other (column + 1)]
        exact ih (List.forall_mem_cons.mp blank).2 place' same _ rfl scanned
  | case4 column c text starts comment symbol after read ih =>
    obtain ⟨others, scannedOthers, rfl⟩ := map_eq_ok.mp scanned
    cases first with
    | nil =>
      obtain ⟨rfl, rfl⟩ := List.cons.inj all
      have empty : core = [] := List.eq_nil_of_length_eq_zero (by dsimp only at place; omega)
      rw [empty, scanFrom_nil]
    | cons head first =>
      obtain ⟨rfl, rfl⟩ := List.cons.inj all
      have reaches := beyond scannedOthers
      obtain ⟨spelled, formed, -⟩ := Symbol.scan_eq_some_iff.mp read
      obtain ⟨left, rfl, rfl⟩ := exists_of_lexeme_append formed blank
        (spelled.symm.trans whole.symm) (by omega)
      obtain ⟨head, later, cut⟩ := List.exists_cons_of_ne_nil (Symbol.scan_append read).2
      have readCut : Symbol.scan (symbol.lexeme ++ left) = some (symbol, left) := by
        rw [spelled] at read
        exact Symbol.scan_of_scan_append read
      obtain rfl : c = head := by
        rw [cut] at spelled
        exact (List.cons.inj spelled).1
      have front : symbol.lexeme ++ left = c :: (later ++ left) := by rw [cut, List.cons_append]
      have place' : last.column = column + symbol.lexeme.length + (left.length + tail.length) := by
        rw [List.length_append] at place
        omega
      rw [front] at readCut ⊢
      rw [scanFrom_symbol _ _ (by simpa using starts) comment readCut,
        ih blank place' rfl _ rfl scannedOthers]
      rfl
  | case5 => cases scanned

/-- The tokens between two others are those of the text between them, farther to the left. -/
theorem ofLine_between {opening closing : Token} {own : List Token}
    (single : opening.symbol.lexeme.length = 1)
    (scanned : scanFrom line 1 line = .ok (first ++ opening :: (own ++ closing :: rest))) :
    ∃ tokens distance,
      ofLine (Text.trim ((line.take (closing.column - 1)).drop opening.column)) = .ok tokens ∧
        own = tokens.list.map (Token.shifted distance) := by
  obtain ⟨before, after, whole, openingPlace, -, scannedAfter⟩ := scanFrom_split scanned
  obtain ⟨between, later, rfl, closingPlace, -, -⟩ := scanFrom_split scannedAfter
  have cut : (line.take (closing.column - 1)).drop opening.column = between := by
    have parts : line =
        (before ++ opening.symbol.lexeme) ++ (between ++ (closing.symbol.lexeme ++ later)) := by
      rw [whole, List.append_assoc]
    have front : opening.column = (before ++ opening.symbol.lexeme).length := by
      rw [List.length_append]
      omega
    have back : closing.column - 1 = opening.column + between.length := by omega
    rw [parts, back, front, List.take_length_add_append, List.drop_left, List.take_left]
  obtain ⟨lead, tail, trimmed, leadBlank, tailBlank⟩ := Text.trim_eq between
  rw [trimmed, List.append_assoc, List.append_assoc] at scannedAfter
  have fromCore := scanFrom_of_blank leadBlank scannedAfter
  have place : closing.column = opening.column + opening.symbol.lexeme.length + lead.length +
      ((Text.trim between).length + tail.length) := by
    have lengths := congrArg List.length trimmed
    simp only [List.length_append] at lengths
    omega
  have fromOwn := scanFrom_cut (Text.trim between) tailBlank place fromCore
  have start : opening.column + opening.symbol.lexeme.length + lead.length =
      1 + (opening.column + lead.length) := by omega
  rw [start] at fromOwn
  obtain ⟨tokens, scannedOwn, shifted⟩ := scanFrom_of_shifted (Text.trim between) fromOwn
  refine ⟨⟨tokens, (Text.trim between).length + 1⟩, opening.column + lead.length, ?_, shifted⟩
  rw [cut, ofLine, scannedOwn]
  rfl

/-- Tokens that stand one after the other are those of a part of the line, farther to the
    right. -/
theorem ofLine_part {before own after : List Token}
    (scanned : scanFrom line 1 line = .ok (before ++ (own ++ after))) :
    ∃ text tokens distance, text <:+: line ∧ ofLine text = .ok tokens ∧
      own = tokens.list.map (Token.shifted distance) := by
  obtain ⟨front, rest, distance, rfl, fromOwn⟩ : ∃ front rest distance, line = front ++ rest ∧
      scanFrom line (1 + distance) rest = .ok (own ++ after) := by
    rcases List.eq_nil_or_concat before with rfl | ⟨earlier, last, rfl⟩
    · exact ⟨[], line, 0, rfl, scanned⟩
    · rw [List.concat_eq_append, List.append_assoc, List.singleton_append] at scanned
      obtain ⟨front, rest, whole, place, -, later⟩ := scanFrom_split scanned
      refine ⟨front ++ last.symbol.lexeme, rest, front.length + last.symbol.lexeme.length,
        by rw [whole, List.append_assoc], ?_⟩
      rwa [place, Nat.add_assoc] at later
  obtain ⟨core, back, rfl, ownScanned⟩ : ∃ core back, rest = core ++ back ∧
      scanFrom core (1 + distance) core = .ok own := by
    cases after with
    | nil =>
      obtain ⟨tokens, alone, shifted⟩ := scanFrom_of_shifted rest fromOwn
      refine ⟨rest, [], (List.append_nil rest).symm, ?_⟩
      rw [List.append_nil] at shifted
      rw [shifted, scanFrom_shifted rest distance alone]
    | cons next others =>
      obtain ⟨core, back, rfl, place, -, -⟩ := scanFrom_split fromOwn
      exact ⟨core, _, rfl, scanFrom_cut core (List.forall_mem_nil _) place fromOwn⟩
  obtain ⟨tokens, alone, shifted⟩ := scanFrom_of_shifted core ownScanned
  refine ⟨core, ⟨tokens, core.length + 1⟩, distance, ⟨front, back, by rw [List.append_assoc]⟩, ?_,
    shifted⟩
  rw [ofLine, alone]
  rfl

/-- Tokens that a line begins with come from its front, and a text that goes on after a space in
    another way has them too. -/
theorem scanFrom_front {own : List Token}
    (scanned : scanFrom line column text = .ok (own ++ rest)) :
    ∃ front back, text = front ++ back ∧ ∀ other more tokens,
      scanFrom other (column + front.length + 1) more = .ok tokens →
        scanFrom other column (front ++ ' ' :: more) = .ok (own ++ tokens) := by
  have spaced : ∀ {column : Nat} other more tokens,
      scanFrom other (column + 1) more = .ok tokens →
        scanFrom other column (' ' :: more) = .ok tokens := by
    intro column other more tokens scanned
    rwa [scanFrom_separator _ _ _ rfl]
  generalize all : own ++ rest = tokens at scanned
  fun_induction scanFrom line column text generalizing own tokens with
  | case1 | case3 =>
    obtain rfl := Except.ok.inj scanned
    obtain ⟨rfl, -⟩ := List.append_eq_nil_iff.mp all
    exact ⟨[], _, rfl, spaced⟩
  | case2 column c text separator ih =>
    obtain ⟨front, back, rfl, later⟩ := ih _ all scanned
    refine ⟨c :: front, back, rfl, fun other more tokens scannedMore => ?_⟩
    rw [List.cons_append, scanFrom_separator _ _ _ separator]
    refine later other more tokens ?_
    rwa [List.length_cons, Nat.add_right_comm column, ← Nat.add_assoc] at scannedMore
  | case4 column c text _ _ symbol after read ih =>
    obtain ⟨others, scannedOthers, rfl⟩ := map_eq_ok.mp scanned
    obtain ⟨whole, formed, ends⟩ := Symbol.scan_eq_some_iff.mp read
    cases own with
    | nil => exact ⟨[], _, rfl, spaced⟩
    | cons head own =>
      obtain ⟨rfl, same⟩ := List.cons.inj all
      obtain ⟨front, back, rfl, later⟩ := ih _ same scannedOthers
      refine ⟨symbol.lexeme ++ front, back, by rw [whole, List.append_assoc],
        fun other more tokens scannedMore => ?_⟩
      have endsThere : symbol.Ends (front ++ ' ' :: more) := ends.of_append.append (.inl rfl)
      rw [List.length_append, ← Nat.add_assoc] at scannedMore
      rw [List.append_assoc, scanFrom_lexeme other column formed endsThere,
        later other more tokens scannedMore]
      rfl
  | case5 => cases scanned

/-! ## Comments -/

/-- A comment after a part of a line, and the separators before it, add no token. -/
theorem scanFrom_commented (other : List Char) (separators : ∀ c ∈ front, isSeparator c = true)
    (scanned : scanFrom line column text = .ok tokens) :
    scanFrom other column (text ++ (front ++ '#' :: more)) = .ok tokens := by
  have silent : ∀ {front : List Char} {column : Nat}, (∀ c ∈ front, isSeparator c = true) →
      scanFrom other column (front ++ '#' :: more) = .ok [] := by
    intro front column separators
    induction front generalizing column with
    | nil => exact scanFrom_comment _ _ _
    | cons c front ih =>
      obtain ⟨here, later⟩ := List.forall_mem_cons.mp separators
      rw [List.cons_append, scanFrom_separator _ _ _ here]
      exact ih later
  obtain ⟨c, behind, follows, separates⟩ :
      ∃ c behind, front ++ '#' :: more = c :: behind ∧ Symbol.Separates c := by
    cases front with
    | nil => exact ⟨'#', more, rfl, .inr rfl⟩
    | cons c front => exact ⟨c, front ++ '#' :: more, rfl, .inl (separators c (by simp))⟩
  fun_induction scanFrom line column text generalizing tokens with
  | case1 =>
    obtain rfl := Except.ok.inj scanned
    exact silent separators
  | case2 column c text separator ih =>
    rw [List.cons_append, scanFrom_separator _ _ _ separator]
    exact ih scanned
  | case3 =>
    obtain rfl := Except.ok.inj scanned
    exact scanFrom_comment _ _ _
  | case4 column head text starts comment symbol after read ih =>
    obtain ⟨others, scannedOthers, rfl⟩ := map_eq_ok.mp scanned
    have readOn : Symbol.scan ((head :: text) ++ c :: behind) = some (symbol, after ++ c :: behind) :=
      Symbol.scan_append_of_scan read separates
    rw [← follows] at readOn
    rw [List.cons_append] at readOn ⊢
    rw [scanFrom_symbol _ _ (by simpa using starts) comment readOn, ih scannedOthers]
    rfl
  | case5 => cases scanned

end Tokens

end StepTrace
