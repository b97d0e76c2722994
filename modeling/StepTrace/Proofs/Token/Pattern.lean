import Mathlib.Computability.Language
import StepTrace.Proofs.Token.Extent

/-!
# The patterns of tokens

Each kind of symbol has a pattern, which is a regular language. The words of a pattern are the
lexemes of the formed symbols of the kind (`mem_pattern_iff`). What the reader finds in front of
a text is the longest word there that belongs to any pattern (`Symbol.length_le_of_scan`), and it
finds nothing only where no such word is (`Symbol.scan_eq_none_iff`).
-/

namespace StepTrace

open scoped Computability
open Text (isDigit)

/-- The kinds of symbols. -/
inductive SymbolKind where
  | number | string | name | operator | leftParen | rightParen | colon | equals
  deriving DecidableEq, Repr

/-- The kind of a symbol. -/
def Symbol.kind : Symbol → SymbolKind
  | number _ => .number
  | string _ _ => .string
  | name _ => .name
  | operator _ => .operator
  | leftParen => .leftParen
  | rightParen => .rightParen
  | colon => .colon
  | equals => .equals

/-! ## Languages -/

namespace Pattern

/-- Words of one character, which is one of these. -/
def oneOf (these : Char → Bool) : Language Char := {word | ∃ c, word = [c] ∧ these c = true}

/-- The word of this character alone. -/
def only (c : Char) : Language Char := oneOf (· == c)

/-- One digit or more. -/
def digits : Language Char := oneOf isDigit * (oneOf isDigit)∗

/-- A letter of an exponent, perhaps with a sign. -/
def mark : Language Char := (only 'e' + only 'E') * (1 + (only '+' + only '-'))

/-- Digits with a point behind or among them, behind a point, or alone. -/
def mantissa : Language Char :=
  digits * only '.' * (oneOf isDigit)∗ + only '.' * digits + digits

/-- The digits and the point of a number, and perhaps an exponent. -/
def number : Language Char := mantissa * (1 + mark * digits)

/-- A character of a string that needs no backslash. -/
def plain (quote : Char) : Language Char := oneOf fun c => c != quote && c != '\\' && c != '\n'

/-- A backslash and the character after it, which ends no line. -/
def escaped : Language Char := only '\\' * oneOf (· != '\n')

/-- Characters between two quotes. -/
def string (quote : Char) : Language Char := only quote * (plain quote + escaped)∗ * only quote

/-- A letter or underscore, then letters, digits and underscores. -/
def name : Language Char := oneOf isNameStart * (oneOf isNamePart)∗

/-- The sign of an operation. -/
def operator : Language Char := only '+' + only '-' + only '*' + only '/'

end Pattern

/-- The words of a kind. -/
def SymbolKind.pattern : SymbolKind → Language Char
  | number => Pattern.number
  | string => Pattern.string '\x22' + Pattern.string '\x27'
  | name => Pattern.name
  | operator => Pattern.operator
  | leftParen => Pattern.only '('
  | rightParen => Pattern.only ')'
  | colon => Pattern.only ':'
  | equals => Pattern.only '='

namespace Pattern

variable {these : Char → Bool} {language : Language Char} {word body : List Char} {c quote : Char}

/-! ### Words of the languages -/

theorem mem_only : word ∈ only c ↔ word = [c] := by
  constructor
  · rintro ⟨other, rfl, same⟩
    rw [beq_iff_eq.mp same]
  · rintro rfl
    exact ⟨c, rfl, beq_self_eq_true c⟩

theorem mem_oneOf_mul :
    word ∈ oneOf these * language ↔ ∃ c rest, word = c :: rest ∧ these c = true ∧ rest ∈ language := by
  rw [Language.mem_mul]
  constructor
  · rintro ⟨_, ⟨c, rfl, allowed⟩, rest, member, rfl⟩
    exact ⟨c, rest, rfl, allowed, member⟩
  · rintro ⟨c, rest, rfl, allowed, member⟩
    exact ⟨[c], ⟨c, rfl, allowed⟩, rest, member, rfl⟩

/-- A repetition is empty or has a first time. -/
theorem mem_kstar_iff :
    word ∈ language∗ ↔ word = [] ∨ ∃ first ∈ language, ∃ rest ∈ language∗, first ++ rest = word := by
  rw [← Language.mem_mul, ← Language.mem_one, ← Language.mem_add,
    Language.one_add_self_mul_kstar_eq_kstar]

theorem mem_kstar_oneOf : word ∈ (oneOf these)∗ ↔ ∀ c ∈ word, these c = true := by
  induction word with
  | nil => simp [Language.nil_mem_kstar]
  | cons c rest ih =>
    have unfolded : c :: rest ∈ (oneOf these)∗ ↔ c :: rest ∈ oneOf these * (oneOf these)∗ := by
      rw [mem_kstar_iff, ← Language.mem_mul]
      simp
    rw [unfolded, mem_oneOf_mul, List.forall_mem_cons, ← ih]
    simp

theorem mem_digits : word ∈ digits ↔ word ≠ [] ∧ ∀ c ∈ word, isDigit c = true := by
  rw [digits, mem_oneOf_mul]
  constructor
  · rintro ⟨c, rest, rfl, digit, others⟩
    exact ⟨List.cons_ne_nil c rest, List.forall_mem_cons.mpr ⟨digit, mem_kstar_oneOf.mp others⟩⟩
  · rintro ⟨nonempty, all⟩
    obtain ⟨c, rest, rfl⟩ := List.exists_cons_of_ne_nil nonempty
    obtain ⟨digit, others⟩ := List.forall_mem_cons.mp all
    exact ⟨c, rest, rfl, digit, mem_kstar_oneOf.mpr others⟩

theorem mem_mark : word ∈ mark ↔ Numeral.IsMark word := by
  simp only [mark, Language.mem_mul, Language.mem_add, mem_only, Language.mem_one, Numeral.IsMark]
  constructor
  · rintro ⟨_, rfl | rfl, _, rfl | rfl | rfl, rfl⟩
    · exact ⟨'e', .inl rfl, .inl rfl⟩
    · exact ⟨'e', .inl rfl, .inr (.inl rfl)⟩
    · exact ⟨'e', .inl rfl, .inr (.inr rfl)⟩
    · exact ⟨'E', .inr rfl, .inl rfl⟩
    · exact ⟨'E', .inr rfl, .inr (.inl rfl)⟩
    · exact ⟨'E', .inr rfl, .inr (.inr rfl)⟩
  · rintro ⟨letter, letters, signed⟩
    refine ⟨[letter], letters.imp (congrArg ([·])) (congrArg ([·])), ?_⟩
    rcases signed with rfl | rfl | rfl
    · exact ⟨[], .inl rfl, rfl⟩
    · exact ⟨['+'], .inr (.inl rfl), rfl⟩
    · exact ⟨['-'], .inr (.inr rfl), rfl⟩

private theorem mem_mantissa :
    word ∈ mantissa ↔ ∃ (whole : List Char) (fraction : Option (List Char)),
      word = whole ++ fraction.elim [] ('.' :: ·) ∧ (∀ c ∈ whole, isDigit c = true) ∧
        (∀ part ∈ fraction, ∀ c ∈ part, isDigit c = true) ∧
        (whole ≠ [] ∨ ∃ part ∈ fraction, part ≠ []) := by
  simp only [mantissa, Language.mem_add, Language.mem_mul, mem_only, mem_digits, mem_kstar_oneOf]
  constructor
  · rintro ((⟨_, ⟨whole, ⟨nonempty, all⟩, _, rfl, rfl⟩, part, digits, rfl⟩ |
      ⟨_, rfl, part, ⟨nonempty, all⟩, rfl⟩) | ⟨nonempty, all⟩)
    · exact ⟨whole, some part, by simp, all, by simpa using digits, .inl nonempty⟩
    · exact ⟨[], some part, rfl, by simp, by simpa using all, .inr ⟨part, rfl, nonempty⟩⟩
    · exact ⟨word, none, by simp, all, by simp, .inl nonempty⟩
  · rintro ⟨whole, fraction, rfl, all, digits, some_digit⟩
    cases fraction with
    | none =>
      have nonempty : whole ≠ [] := by simpa using some_digit
      exact .inr ⟨by simpa using nonempty, by simpa using all⟩
    | some part =>
      refine .inl ?_
      by_cases empty : whole = []
      · subst empty
        exact .inr ⟨['.'], rfl, part, ⟨by simpa using some_digit, digits part rfl⟩, rfl⟩
      · exact .inl ⟨whole ++ ['.'], ⟨whole, ⟨empty, all⟩, ['.'], rfl, rfl⟩, part, digits part rfl,
          by simp⟩

theorem mem_number :
    word ∈ number ↔ ∃ numeral : Numeral, numeral.Formed ∧ numeral.lexeme = word := by
  rw [number, Language.mem_mul]
  constructor
  · rintro ⟨_, isMantissa, exponent, raised, rfl⟩
    obtain ⟨whole, fraction, rfl, all, digits, some_digit⟩ := mem_mantissa.mp isMantissa
    rcases (Language.mem_add _ _ _).mp raised with rfl | powered
    · exact ⟨⟨whole, fraction, none⟩, ⟨all, digits, some_digit, by simp⟩, by simp [Numeral.lexeme]⟩
    · obtain ⟨mark, isMark, power, isPower, rfl⟩ := Language.mem_mul.mp powered
      refine ⟨⟨whole, fraction, some (mark, power)⟩, ⟨all, digits, some_digit, ?_⟩,
        by simp [Numeral.lexeme]⟩
      rintro part ⟨⟩
      exact ⟨mem_mark.mp isMark, mem_digits.mp isPower⟩
  · rintro ⟨⟨whole, fraction, exponent⟩, formed, rfl⟩
    have isMantissa : whole ++ fraction.elim [] ('.' :: ·) ∈ mantissa :=
      mem_mantissa.mpr ⟨whole, fraction, rfl, formed.whole, formed.fraction, formed.some_digit⟩
    cases exponent with
    | none => exact ⟨_, isMantissa, [], .inl rfl, by simp [Numeral.lexeme]⟩
    | some part =>
      obtain ⟨isMark, isPower⟩ := formed.exponent part rfl
      exact ⟨_, isMantissa, part.1 ++ part.2,
        .inr (Language.append_mem_mul (mem_mark.mpr isMark) (mem_digits.mpr isPower)),
        by simp [Numeral.lexeme]⟩

/-- What stands between two quotes is a repetition of plain and escaped characters. -/
theorem mem_body : body ∈ (plain quote + escaped)∗ ↔ Symbol.Quoted quote body := by
  constructor
  · intro repeated
    obtain ⟨parts, rfl, each⟩ := Language.mem_kstar.mp repeated
    induction parts with
    | nil => exact .nil
    | cons part rest ih =>
      obtain ⟨first, others⟩ := List.forall_mem_cons.mp each
      have later := ih others (Language.join_mem_kstar others)
      rcases (Language.mem_add _ _ _).mp first with ⟨c, rfl, allowed⟩ | pair
      · simp only [Bool.and_eq_true, bne_iff_ne] at allowed
        exact .plain allowed.1.1 allowed.2 allowed.1.2 later
      · obtain ⟨_, backslash, _, ⟨c, rfl, sameLine⟩, rfl⟩ := Language.mem_mul.mp pair
        obtain rfl := mem_only.mp backslash
        exact .escape (bne_iff_ne.mp sameLine) later
  · intro quoted
    induction quoted with
    | nil => exact Language.nil_mem_kstar _
    | @escape c body sameLine _ ih =>
      have pair : ['\\', c] ∈ plain quote + escaped :=
        .inr (Language.mem_mul.mpr ⟨['\\'], mem_only.mpr rfl, [c], ⟨c, rfl, by simpa using sameLine⟩, rfl⟩)
      exact mem_kstar_iff.mpr (.inr ⟨_, pair, body, ih, rfl⟩)
    | @plain c body other sameLine noEscape _ ih =>
      have single : [c] ∈ plain quote + escaped := .inl ⟨c, rfl, by simp [other, sameLine, noEscape]⟩
      exact mem_kstar_iff.mpr (.inr ⟨_, single, body, ih, rfl⟩)

theorem mem_string :
    word ∈ string quote ↔ ∃ body, Symbol.Quoted quote body ∧ word = quote :: body ++ [quote] := by
  simp only [string, Language.mem_mul, mem_only, mem_body]
  constructor
  · rintro ⟨_, ⟨_, rfl, body, quoted, rfl⟩, _, rfl, rfl⟩
    exact ⟨body, quoted, rfl⟩
  · rintro ⟨body, quoted, rfl⟩
    exact ⟨_, ⟨_, rfl, body, quoted, rfl⟩, _, rfl, rfl⟩

theorem mem_name : word ∈ name ↔ IsName word := by
  rw [name, mem_oneOf_mul]
  constructor
  · rintro ⟨c, rest, rfl, starts, follow⟩
    exact ⟨starts, mem_kstar_oneOf.mp follow⟩
  · intro named
    obtain ⟨c, rest, rfl, starts, follow⟩ := named.exists_cons
    exact ⟨c, rest, rfl, starts, mem_kstar_oneOf.mpr follow⟩

theorem mem_operator : word ∈ operator ↔ ∃ op : Operator, word = [op.symbol] := by
  simp only [operator, Language.mem_add, mem_only]
  constructor
  · rintro (((rfl | rfl) | rfl) | rfl)
    · exact ⟨.add, rfl⟩
    · exact ⟨.sub, rfl⟩
    · exact ⟨.mul, rfl⟩
    · exact ⟨.div, rfl⟩
  · rintro ⟨op, rfl⟩
    cases op <;> simp [Operator.symbol]

end Pattern

/-- The words of a kind are the lexemes of the symbols that have its form. -/
theorem mem_pattern_iff {kind : SymbolKind} {word : List Char} :
    word ∈ kind.pattern ↔
      ∃ symbol : Symbol, symbol.kind = kind ∧ symbol.Formed ∧ symbol.lexeme = word := by
  constructor
  · intro member
    cases kind with
    | number =>
      obtain ⟨numeral, formed, rfl⟩ := Pattern.mem_number.mp member
      exact ⟨.number numeral, rfl, formed, rfl⟩
    | string =>
      rcases (Language.mem_add _ _ _).mp member with double | single
      · obtain ⟨body, quoted, rfl⟩ := Pattern.mem_string.mp double
        exact ⟨.string '\x22' body, rfl, ⟨rfl, quoted⟩, rfl⟩
      · obtain ⟨body, quoted, rfl⟩ := Pattern.mem_string.mp single
        exact ⟨.string '\x27' body, rfl, ⟨rfl, quoted⟩, rfl⟩
    | name =>
      refine ⟨.name (String.ofList word), rfl, ?_, String.toList_ofList⟩
      rw [Symbol.Formed, String.toList_ofList]
      exact Pattern.mem_name.mp member
    | operator =>
      obtain ⟨op, rfl⟩ := Pattern.mem_operator.mp member
      exact ⟨.operator op, rfl, trivial, rfl⟩
    | leftParen => exact ⟨.leftParen, rfl, trivial, (Pattern.mem_only.mp member).symm⟩
    | rightParen => exact ⟨.rightParen, rfl, trivial, (Pattern.mem_only.mp member).symm⟩
    | colon => exact ⟨.colon, rfl, trivial, (Pattern.mem_only.mp member).symm⟩
    | equals => exact ⟨.equals, rfl, trivial, (Pattern.mem_only.mp member).symm⟩
  · rintro ⟨symbol, rfl, formed, rfl⟩
    cases symbol with
    | number numeral => exact Pattern.mem_number.mpr ⟨numeral, formed, rfl⟩
    | string mark body =>
      obtain ⟨quote, quoted⟩ := formed
      simp only [isQuote, Bool.or_eq_true, beq_iff_eq] at quote
      rcases quote with rfl | rfl
      · exact .inl (Pattern.mem_string.mpr ⟨body, quoted, rfl⟩)
      · exact .inr (Pattern.mem_string.mpr ⟨body, quoted, rfl⟩)
    | name text => exact Pattern.mem_name.mpr formed
    | operator op => exact Pattern.mem_operator.mpr ⟨op, rfl⟩
    | leftParen | rightParen | colon | equals => exact Pattern.mem_only.mpr rfl

/-! ## The longest word -/

namespace Numeral

variable {numeral : Numeral} {rest : List Char} {c : Char}

/-- A numeral with a digit behind it. -/
def push (numeral : Numeral) (digit : Char) : Numeral :=
  match numeral with
  | ⟨whole, fraction, some (mark, power)⟩ => ⟨whole, fraction, some (mark, power ++ [digit])⟩
  | ⟨whole, some part, none⟩ => ⟨whole, some (part ++ [digit]), none⟩
  | ⟨whole, none, none⟩ => ⟨whole ++ [digit], none, none⟩

theorem lexeme_push (numeral : Numeral) (digit : Char) :
    (numeral.push digit).lexeme = numeral.lexeme ++ [digit] := by
  obtain ⟨whole, _ | part, _ | ⟨mark, power⟩⟩ := numeral <;> simp [push, lexeme]

theorem Formed.push (formed : numeral.Formed) (digit : isDigit c = true) :
    (numeral.push c).Formed := by
  obtain ⟨whole, fraction, exponent⟩ := numeral
  have concat : ∀ {part : List Char}, (∀ other ∈ part, isDigit other = true) →
      ∀ other ∈ part ++ [c], isDigit other = true := fun all =>
    List.forall_mem_append.mpr ⟨all, List.forall_mem_singleton.mpr digit⟩
  cases exponent with
  | some exponent =>
    obtain ⟨isMark, -, all⟩ := formed.exponent exponent rfl
    refine ⟨formed.whole, formed.fraction, formed.some_digit, ?_⟩
    rintro part ⟨⟩
    exact ⟨isMark, by simp, concat all⟩
  | none =>
    cases fraction with
    | some part =>
      refine ⟨formed.whole, ?_, .inr ⟨_, rfl, by simp⟩, by simp [Numeral.push]⟩
      rintro more ⟨⟩
      exact concat (formed.fraction part rfl)
    | none => exact ⟨concat formed.whole, by simp [Numeral.push], .inl (by simp [Numeral.push]),
        by simp [Numeral.push]⟩

/-- A numeral that what follows continues is the front of a longer one. -/
theorem Formed.exists_longer (formed : numeral.Formed) (goesOn : ¬ numeral.Ends rest) :
    ∃ (longer : Numeral) (more : List Char), longer.Formed ∧
      numeral.lexeme ++ rest = longer.lexeme ++ more ∧ more.length < rest.length := by
  by_cases digit : Clear isDigit rest
  · by_cases raises : numeral.exponent = none ∧ Raises rest
    · obtain ⟨none, mark, c, after, rfl, isMark, isDigit⟩ := raises
      obtain ⟨whole, fraction, exponent⟩ := numeral
      obtain rfl : exponent = .none := none
      refine ⟨⟨whole, fraction, some (mark, [c])⟩, after,
        ⟨formed.whole, formed.fraction, formed.some_digit, ?_⟩, by simp [lexeme], by simp; omega⟩
      rintro part ⟨⟩
      exact ⟨isMark, by simp, by simpa using isDigit⟩
    · have pointed : numeral.fraction = none ∧ numeral.exponent = none ∧ ¬ Clear (· == '.') rest := by
        by_contra unpointed
        exact goesOn ⟨digit, fun none begins => raises ⟨none, begins⟩, fun none without =>
          by_contra fun stands => unpointed ⟨none, without, stands⟩⟩
      obtain ⟨whole, fraction, exponent⟩ := numeral
      obtain ⟨rfl, rfl, point⟩ := pointed
      obtain ⟨after, rfl⟩ : ∃ after, rest = '.' :: after := by
        cases rest with
        | nil => exact absurd clear_nil point
        | cons c after =>
          refine ⟨after, congrArg (· :: after) ?_⟩
          by_contra other
          exact point (by simpa [Clear] using other)
      have some_digit : whole ≠ [] := by simpa using formed.some_digit
      exact ⟨⟨whole, some [], none⟩, after, ⟨formed.whole, by simp, .inl some_digit, by simp⟩,
        by simp [lexeme], by simp⟩
  · cases rest with
    | nil => exact absurd clear_nil digit
    | cons c after =>
      have isDigit : isDigit c = true := by simpa [Clear] using digit
      exact ⟨numeral.push c, after, formed.push isDigit, by simp [lexeme_push], by simp⟩

end Numeral

namespace Symbol

variable {symbol : Symbol} {text rest word : List Char}

/-- A symbol that what follows continues is the front of a longer one. -/
theorem Formed.exists_longer (formed : symbol.Formed) (goesOn : ¬ symbol.Ends rest) :
    ∃ (longer : Symbol) (more : List Char), longer.Formed ∧
      symbol.lexeme ++ rest = longer.lexeme ++ more ∧ more.length < rest.length := by
  cases symbol with
  | number numeral =>
    obtain ⟨longer, more, formedLonger, same, shorter⟩ :=
      Numeral.Formed.exists_longer formed goesOn
    exact ⟨.number longer, more, formedLonger, same, shorter⟩
  | name text =>
    cases rest with
    | nil => exact absurd clear_nil goesOn
    | cons c after =>
      have part : isNamePart c = true := by simpa [Ends, Clear] using goesOn
      obtain ⟨first, others, spelled, starts, follow⟩ := IsName.exists_cons formed
      refine ⟨.name (String.ofList (text.toList ++ [c])), after, ?_, by simp [lexeme], by simp⟩
      rw [Formed, String.toList_ofList, spelled]
      exact ⟨starts, List.forall_mem_append.mpr ⟨follow, List.forall_mem_singleton.mpr part⟩⟩
  | string | operator | leftParen | rightParen | colon | equals => exact absurd trivial goesOn

/-- Where a symbol is written, one that is no shorter is read. By induction on the length of
    what follows: the symbol ends there, or it is the front of a longer one. -/
theorem Formed.exists_scan {symbol : Symbol} (formed : symbol.Formed) (rest : List Char) :
    ∃ found more, scan (symbol.lexeme ++ rest) = some (found, more) ∧
      more.length ≤ rest.length := by
  by_cases ends : symbol.Ends rest
  · exact ⟨symbol, rest, scan_eq_some_iff.mpr ⟨rfl, formed, ends⟩, Nat.le_refl _⟩
  · obtain ⟨longer, more, formedLonger, same, shorter⟩ := formed.exists_longer ends
    obtain ⟨found, after, read, within⟩ := formedLonger.exists_scan more
    exact ⟨found, after, by rw [same, read], by omega⟩
termination_by rest.length

/-- No word in front of a text that belongs to a pattern is longer than what is read there. -/
theorem length_le_of_scan {kind : SymbolKind} (read : scan text = some (symbol, rest))
    (front : word <+: text) (member : word ∈ kind.pattern) : word.length ≤ symbol.lexeme.length := by
  obtain ⟨after, rfl⟩ := front
  obtain ⟨other, -, formed, rfl⟩ := mem_pattern_iff.mp member
  obtain ⟨found, more, readAgain, within⟩ := formed.exists_scan after
  obtain ⟨rfl, rfl⟩ := Prod.mk.inj (Option.some.inj (read.symm.trans readAgain))
  have lengths := congrArg List.length (scan_append read).1
  simp only [List.length_append] at lengths
  omega

/-- Nothing is read exactly where no word of any pattern stands in front. -/
theorem scan_eq_none_iff :
    scan text = none ↔ ∀ (kind : SymbolKind), ∀ word ∈ kind.pattern, ¬ word <+: text := by
  constructor
  · rintro unread kind _ member ⟨after, rfl⟩
    obtain ⟨symbol, -, formed, rfl⟩ := mem_pattern_iff.mp member
    obtain ⟨found, more, read, -⟩ := formed.exists_scan after
    rw [unread] at read
    cases read
  · intro free
    refine Option.eq_none_iff_forall_not_mem.mpr fun found read => ?_
    obtain ⟨symbol, rest⟩ := found
    obtain ⟨rfl, formed, -⟩ := scan_eq_some_iff.mp read
    exact free symbol.kind symbol.lexeme (mem_pattern_iff.mpr ⟨symbol, rfl, formed, rfl⟩)
      (List.prefix_append _ _)

end Symbol

end StepTrace
