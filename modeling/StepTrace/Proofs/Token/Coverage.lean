import StepTrace.Proofs.Token.Parts
import StepTrace.Proofs.Token.Pattern
import StepTrace.Text.Split

/-!
# Tokens cover their line

The tokens of a line account for all of it (`ofLine_covers`): each is the longest word of any
pattern where it stands, and what is left over are separators and a comment at the end. A line
that has no tokens is refused at the first place that is not accounted for in this way. The
lexemes alone, one space apart, are read as the same symbols again.
-/

namespace StepTrace

/-- The place of the first character of a token, counted from zero. -/
def Token.place (token : Token) : Nat := token.column - 1

/-- The place after the last character of a token. -/
def Token.past (token : Token) : Nat := token.place + token.symbol.lexeme.length

/-- A word in front of a text that belongs to a pattern. -/
def Fronts (text word : List Char) : Prop := word <+: text ∧ ∃ kind : SymbolKind, word ∈ kind.pattern

/-- A token stands in a line: its lexeme is the part of the line at its column, and of the words
    there that belong to a pattern it is the longest. -/
structure Token.Stands (line : List Char) (token : Token) : Prop where
  counted : 0 < token.column
  slice : (line.drop token.place).take token.symbol.lexeme.length = token.symbol.lexeme
  pattern : token.symbol.lexeme ∈ token.symbol.kind.pattern
  longest : ∀ word, Fronts (line.drop token.place) word → word.length ≤ token.symbol.lexeme.length

/-- From one place of a line to another there are only separators. -/
def Gap (line : List Char) (place past : Nat) : Prop :=
  place ≤ past ∧ ∀ c ∈ (line.take past).drop place, c ∈ [' ', '\t', '\r', '\x0c']

/-- From one place of a line to another there are only these tokens in their order, and gaps
    before, between and after them. -/
def Spaced (line : List Char) (place : Nat) : List Token → Nat → Prop
  | [], past => Gap line place past
  | token :: rest, past => Gap line place token.place ∧ Spaced line token.past rest past

/-- Tokens are all that there is in a line from one place to another. -/
structure Covers (line : List Char) (place : Nat) (tokens : List Token) (past : Nat) : Prop where
  stands : ∀ token ∈ tokens, token.Stands line
  spaced : Spaced line place tokens past

/-! ## Gaps -/

variable {line text rest : List Char} {place past : Nat} {c : Char} {symbol : Symbol}
  {tokens : List Token}

theorem Gap.refl (line : List Char) (place : Nat) : Gap line place place := by
  refine ⟨Nat.le_refl place, fun c member => ?_⟩
  rw [List.drop_eq_nil_of_le (List.length_take_le place line)] at member
  cases member

/-- A separator in front of a gap makes it longer. -/
theorem Gap.cons (gap : Gap line (place + 1) past) (here : (line.drop place).head? = some c)
    (separator : isSeparator c = true) : Gap line place past := by
  obtain ⟨forward, only⟩ := gap
  refine ⟨by omega, fun other member => ?_⟩
  have front : (line.take past)[place]? = some c := by
    rw [List.getElem?_take_of_lt (by omega), ← List.head?_drop, here]
  rw [List.drop_eq_getElem?_toList_append, front, Option.toList_some, List.singleton_append,
    List.mem_cons] at member
  rcases member with rfl | later
  · simpa [isSeparator, or_assoc] using separator
  · exact only other later

theorem Spaced.cons (spaced : Spaced line (place + 1) tokens past)
    (here : (line.drop place).head? = some c) (separator : isSeparator c = true) :
    Spaced line place tokens past := by
  cases tokens with
  | nil => exact Gap.cons spaced here separator
  | cons token rest => exact ⟨Gap.cons spaced.1 here separator, spaced.2⟩

/-- Tokens that are not empty stand farther and farther to the right. -/
theorem Covers.increasing (covers : Covers line place tokens past) :
    (∀ column ∈ tokens.map Token.column, place < column) ∧
      (tokens.map Token.column).Pairwise (· < ·) := by
  obtain ⟨stands, spaced⟩ := covers
  induction tokens generalizing place with
  | nil => exact ⟨by simp, .nil⟩
  | cons token rest ih =>
    obtain ⟨first, others⟩ := List.forall_mem_cons.mp stands
    obtain ⟨⟨forward, -⟩, spacedRest⟩ := spaced
    obtain ⟨beyond, increasing⟩ := ih others spacedRest
    have counted := first.counted
    have past : token.past = token.place + token.symbol.lexeme.length := rfl
    have column : token.place = token.column - 1 := rfl
    have nonempty : 0 < token.symbol.lexeme.length := by
      obtain ⟨symbol, -, formed, same⟩ := mem_pattern_iff.mp first.pattern
      obtain ⟨found, more, read, -⟩ := formed.exists_scan []
      rw [List.append_nil, same] at read
      have longer := Symbol.scan_length read
      omega
    refine ⟨List.forall_mem_cons.mpr ⟨by omega, fun column member => ?_⟩,
      List.pairwise_cons.mpr ⟨fun column member => ?_, increasing⟩⟩
    · have := beyond column member
      omega
    · have := beyond column member
      omega

/-! ## The tokens of a line -/

/-- What is read at a place is a token that stands there. -/
theorem stands_of_scan (read : Symbol.scan (line.drop place) = some (symbol, rest)) :
    Token.Stands line ⟨symbol, place + 1⟩ := by
  obtain ⟨whole, formed, -⟩ := Symbol.scan_eq_some_iff.mp read
  have here : line.drop (Token.place ⟨symbol, place + 1⟩) = symbol.lexeme ++ rest := whole
  refine ⟨Nat.succ_pos place, ?_, mem_pattern_iff.mpr ⟨symbol, rfl, formed, rfl⟩, ?_⟩
  · rw [here, List.take_left]
  · rintro word ⟨front, kind, member⟩
    exact Symbol.length_le_of_scan read front member

/-- Nothing begins in front of a text: no separator, no comment and no token. -/
def Blocked (text : List Char) : Prop :=
  (∀ c ∈ text.head?, c ∉ [' ', '\t', '\r', '\x0c'] ∧ c ≠ '#') ∧ ∀ word, ¬ Fronts text word

/-- A fault stands at a character of a line at which nothing begins. Only a quote is the begin
    of a string without an end. -/
structure Refuses (line : List Char) (place : Nat) (fault : Fault) (c : Char) : Prop where
  here : (line.drop place).head? = some c
  blocked : Blocked (line.drop place)
  column : fault.column = some (place + 1)
  about : fault.text = some (String.ofList line)
  message : fault.message = "unterminated string literal" ↔ c = '\x22' ∨ c = '\x27'
  cause : fault.cause = .unterminatedString ∨ fault.cause = .invalidCharacter c

/-- The tokens from a place on cover the line up to its end or to a comment; a fault stands
    after tokens that cover the line up to it. -/
def Accounts (line : List Char) (place : Nat) : Except Fault (List Token) → Prop
  | .ok tokens =>
    ∃ past, Covers line place tokens past ∧ ∀ c ∈ (line.drop past).head?, c = '#'
  | .error fault => ∃ tokens past c, Covers line place tokens past ∧ Refuses line past fault c

variable {result : Except Fault (List Token)}

theorem Accounts.separator (accounts : Accounts line (place + 1) result)
    (here : (line.drop place).head? = some c) (separator : isSeparator c = true) :
    Accounts line place result := by
  cases result with
  | ok tokens =>
    obtain ⟨past, ⟨stands, spaced⟩, ends⟩ := accounts
    exact ⟨past, ⟨stands, spaced.cons here separator⟩, ends⟩
  | error fault =>
    obtain ⟨tokens, past, refused, ⟨stands, spaced⟩, refuses⟩ := accounts
    exact ⟨tokens, past, refused, ⟨stands, spaced.cons here separator⟩, refuses⟩

theorem Covers.token (read : Symbol.scan (line.drop place) = some (symbol, rest))
    (covers : Covers line (place + symbol.lexeme.length) tokens past) :
    Covers line place (⟨symbol, place + 1⟩ :: tokens) past where
  stands := List.forall_mem_cons.mpr ⟨stands_of_scan read, covers.stands⟩
  spaced := ⟨Gap.refl line place, covers.spaced⟩

theorem Accounts.token (read : Symbol.scan (line.drop place) = some (symbol, rest))
    (accounts : Accounts line (place + symbol.lexeme.length) result) :
    Accounts line place (result.map (⟨symbol, place + 1⟩ :: ·)) := by
  cases result with
  | ok tokens =>
    obtain ⟨past, covers, ends⟩ := accounts
    exact ⟨past, covers.token read, ends⟩
  | error fault =>
    obtain ⟨tokens, past, refused, covers, refuses⟩ := accounts
    exact ⟨⟨symbol, place + 1⟩ :: tokens, past, refused, covers.token read, refuses⟩

/-- The sentence for a character that begins nothing is no other one. -/
theorem message_invalidCharacter_ne {sentence : String} (c : Char)
    (other : sentence.toList[8]? ≠ some 'c') : (Cause.invalidCharacter c).message ≠ sentence := by
  rintro rfl
  refine other ?_
  have whole : (Cause.invalidCharacter c).message =
      "invalid character '" ++ (String.singleton c ++ "'") := String.append_assoc ..
  have long : 8 < "invalid character '".toList.length := by decide
  rw [whole, String.toList_append, List.getElem?_append_left long]
  rfl

/-- The sentence for a string without an end is that of the quotes alone. -/
theorem message_refusal (c : Char) :
    (Tokens.refusal c).message = "unterminated string literal" ↔ c = '\x22' ∨ c = '\x27' := by
  by_cases quote : c = '\x22' ∨ c = '\x27'
  · refine iff_of_true ?_ quote
    rcases quote with rfl | rfl <;> rfl
  · have unquoted : isQuote c = false := by simpa [isQuote] using quote
    rw [Tokens.refusal, unquoted]
    exact iff_of_false (message_invalidCharacter_ne c (by decide)) quote

/-- A character that begins nothing is refused where it stands. -/
theorem refuses_refusal (here : line.drop place = c :: rest) (starts : isSeparator c = false)
    (noComment : c ≠ '#') (nothing : Symbol.scan (c :: rest) = none) :
    Refuses line place (Fault.about (Tokens.refusal c) (place + 1) line) c where
  here := by rw [here, List.head?_cons]
  blocked := by
    rw [here]
    refine ⟨?_, ?_⟩
    · rintro _ ⟨⟩
      exact ⟨by simpa [isSeparator, and_assoc] using starts, noComment⟩
    · rintro word ⟨front, kind, member⟩
      exact Symbol.scan_eq_none_iff.mp nothing kind word member front
  column := rfl
  about := rfl
  message := by
    rw [Fault.message, Fault.about]
    exact message_refusal c
  cause := by by_cases quote : isQuote c = true <;> simp [Fault.about, Tokens.refusal, quote]

/-- By induction on the recursion of the reader, whose text is what is left of the line. -/
theorem accounts_scanFrom (here : line.drop place = text) :
    Accounts line place (Tokens.scanFrom line (place + 1) text) := by
  generalize column : place + 1 = start
  fun_induction Tokens.scanFrom line start text generalizing place with
  | case1 => exact ⟨place, ⟨by simp, Gap.refl line place⟩, by simp [here]⟩
  | case2 start c rest separator ih =>
    have first : (line.drop place).head? = some c := by rw [here, List.head?_cons]
    have next : line.drop (place + 1) = rest := by rw [← List.tail_drop, here]; rfl
    exact (ih next (by omega)).separator first separator
  | case3 => exact ⟨place, ⟨by simp, Gap.refl line place⟩, by simp [here]⟩
  | case4 start c rest starts comment symbol after read ih =>
    have readHere := here ▸ read
    have next : line.drop (place + symbol.lexeme.length) = after := by
      rw [← List.drop_drop, here, ← (Symbol.scan_append read).1, List.drop_left]
    subst column
    exact (ih next (by omega)).token readHere
  | case5 start c rest starts comment nothing =>
    subst column
    exact ⟨[], place, c, ⟨by simp, Gap.refl line place⟩,
      refuses_refusal here (by simpa using starts) comment nothing⟩

/-! ## Lexemes one space apart -/

/-- The lexemes of symbols with a space between each two. -/
def spelledOut (symbols : List Symbol) : List Char := Text.join [' '] (symbols.map Symbol.lexeme)

/-- Symbols are read from their lexemes, one space apart. -/
theorem Tokens.scanFrom_spelledOut {symbols : List Symbol} (line : List Char) (column : Nat)
    (formed : ∀ symbol ∈ symbols, symbol.Formed) :
    ∃ tokens, scanFrom line column (spelledOut symbols) = .ok tokens ∧
      tokens.map Token.symbol = symbols := by
  induction symbols generalizing column with
  | nil => exact ⟨[], scanFrom_nil _ _, rfl⟩
  | cons symbol rest ih =>
    obtain ⟨first, others⟩ := List.forall_mem_cons.mp formed
    cases rest with
    | nil =>
      refine ⟨[⟨symbol, column⟩], ?_, rfl⟩
      have alone := scanFrom_lexeme line column first Symbol.ends_nil
      rw [List.append_nil, scanFrom_nil] at alone
      exact alone
    | cons next more =>
      obtain ⟨tokens, scanned, same⟩ := ih (column + symbol.lexeme.length + 1) others
      have ends : symbol.Ends (' ' :: spelledOut (next :: more)) :=
        Symbol.ends_nil.append (.inl rfl)
      have whole : spelledOut (symbol :: next :: more) =
          symbol.lexeme ++ ' ' :: spelledOut (next :: more) := by
        simp [spelledOut, Text.join]
      refine ⟨⟨symbol, column⟩ :: tokens, ?_, congrArg _ same⟩
      rw [whole, scanFrom_lexeme line column first ends, scanFrom_separator _ _ _ rfl, scanned]
      rfl

/-! ## Lines -/

/-- The tokens of a line, in the order of their columns, cover it up to its end or to a comment,
    and their lexemes are read as the same symbols again. A line without tokens is refused where,
    after tokens that cover it so far, nothing begins; the fault is that of a string without an
    end exactly at a quote. -/
theorem Tokens.ofLine_covers (line : List Char) :
    match ofLine line with
    | .ok tokens =>
      tokens.stop = line.length + 1 ∧ (tokens.list.map Token.column).Pairwise (· < ·) ∧
        (∃ past, Covers line 0 tokens.list past ∧ ∀ c ∈ (line.drop past).head?, c = '#') ∧
        ∃ again, ofLine (spelledOut (tokens.list.map Token.symbol)) = .ok again ∧
          again.list.map Token.symbol = tokens.list.map Token.symbol
    | .error fault => ∃ tokens past c, Covers line 0 tokens past ∧ Refuses line past fault c := by
  have accounts : Accounts line 0 (scanFrom line 1 line) := accounts_scanFrom List.drop_zero
  cases scanned : scanFrom line 1 line with
  | error fault =>
    rw [scanned] at accounts
    rw [ofLine, scanned]
    exact accounts
  | ok list =>
    rw [scanned] at accounts
    obtain ⟨past, covers, ends⟩ := accounts
    have whole : ofLine line = .ok ⟨list, line.length + 1⟩ := by rw [ofLine, scanned]; rfl
    have formed : ∀ symbol ∈ list.map Token.symbol, symbol.Formed :=
      List.forall_mem_map.mpr fun token member => formed_of_ofLine whole member
    obtain ⟨again, scannedAgain, same⟩ :=
      scanFrom_spelledOut (spelledOut (list.map Token.symbol)) 1 formed
    rw [whole]
    refine ⟨rfl, covers.increasing.2, ⟨past, covers, ends⟩,
      ⟨again, (spelledOut (list.map Token.symbol)).length + 1⟩, ?_, same⟩
    rw [ofLine, scannedAgain]
    rfl

end StepTrace
