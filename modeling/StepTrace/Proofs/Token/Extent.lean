import StepTrace.Proofs.Token.Numeral

/-!
# Where symbols end

A symbol is read from the front of a text exactly where it is written there in the form of its
kind and what follows does not continue it (`Symbol.scan_eq_some_iff`). So a text that is cut
off after a symbol, or goes on with something that continues none, has the same symbol in front.
-/

namespace StepTrace

open Text (isDigit isBlank)

namespace Symbol

variable {text rest more body : List Char} {mark c : Char} {symbol : Symbol}

/-! ## Strings -/

/-- The characters between two quotes: a backslash stands before any character but a line end,
    and the quote stands only after one. -/
inductive Quoted (mark : Char) : List Char → Prop
  | nil : Quoted mark []
  | escape {c : Char} {body : List Char} (sameLine : c ≠ '\n') (rest : Quoted mark body) :
    Quoted mark ('\\' :: c :: body)
  | plain {c : Char} {body : List Char} (other : c ≠ mark) (sameLine : c ≠ '\n')
      (noEscape : c ≠ '\\') (rest : Quoted mark body) : Quoted mark (c :: body)

theorem stringBody_eq_some_iff (notEscape : mark ≠ '\\') :
    stringBody mark text = some (body, rest) ↔ text = body ++ mark :: rest ∧ Quoted mark body := by
  constructor
  · intro read
    fun_induction stringBody mark text generalizing body with
    | case1 | case2 | case5 => cases read
    | case3 c text sameLine ih =>
      obtain ⟨⟨inner, after⟩, inside, same⟩ := Option.map_eq_some_iff.mp read
      obtain ⟨rfl, rfl⟩ := Prod.mk.inj same
      obtain ⟨rfl, quoted⟩ := ih inside
      exact ⟨rfl, .escape sameLine quoted⟩
    | case4 =>
      obtain ⟨rfl, rfl⟩ := Prod.mk.inj (Option.some.inj read)
      exact ⟨rfl, .nil⟩
    | case6 c text _ other plain ih =>
      obtain ⟨⟨inner, after⟩, inside, same⟩ := Option.map_eq_some_iff.mp read
      obtain ⟨rfl, rfl⟩ := Prod.mk.inj same
      obtain ⟨rfl, quoted⟩ := ih inside
      obtain ⟨sameLine, noEscape⟩ := not_or.mp plain
      exact ⟨rfl, .plain other sameLine noEscape quoted⟩
  · rintro ⟨rfl, quoted⟩
    induction quoted with
    | nil =>
      rw [List.nil_append, stringBody]
      · exact if_pos rfl
      · intro c after escaped
        exact absurd escaped notEscape
    | escape sameLine _ ih => simp [stringBody, sameLine, ih]
    | plain other sameLine noEscape _ ih =>
      rw [List.cons_append, stringBody]
      · simp [other, sameLine, noEscape, ih]
      · intro c after escaped
        exact absurd escaped noEscape

/-! ## Symbols -/

/-- A symbol of a single character. -/
def IsSign : Symbol → Prop
  | operator _ | leftParen | rightParen | colon | equals => True
  | number _ | string _ _ | name _ => False

/-- The form of a symbol of its kind. -/
def Formed : Symbol → Prop
  | number numeral => numeral.Formed
  | string mark body => isQuote mark = true ∧ Quoted mark body
  | name text => IsName text.toList
  | operator _ | leftParen | rightParen | colon | equals => True

/-- What follows a symbol does not continue it. -/
def Ends : Symbol → List Char → Prop
  | number numeral, rest => numeral.Ends rest
  | name _, rest => Clear isNamePart rest
  | string _ _, _ | operator _, _ | leftParen, _ | rightParen, _ | colon, _ | equals, _ => True

theorem ofChar?_eq_some_iff : ofChar? c = some symbol ↔ symbol.IsSign ∧ symbol.lexeme = [c] := by
  constructor
  · intro known
    simp only [ofChar?, List.lookup_cons, List.lookup_nil] at known
    repeat' split at known
    all_goals simp_all
    all_goals subst known; simp [IsSign, lexeme, Operator.symbol]
  · rintro ⟨isSign, same⟩
    cases symbol with
    | number | string | name => exact isSign.elim
    | operator op =>
      obtain rfl := List.singleton_inj.mp same
      cases op <;> rfl
    | leftParen | rightParen | colon | equals =>
      obtain rfl := List.singleton_inj.mp same
      rfl

/-- A numeral begins with a digit or a point. -/
theorem numeralScan_eq_none (notDigit : isDigit c = false) (notPoint : c ≠ '.') :
    Numeral.scan (c :: rest) = none := by
  have mantissa : Numeral.scanMantissa (c :: rest) = none := by
    rw [Numeral.scanMantissa]
    simp [notDigit, notPoint]
  rw [Numeral.scan, mantissa]

private theorem numeralScan_of_other (formed : symbol.Formed)
    (other : ∀ numeral, symbol ≠ .number numeral) : Numeral.scan (symbol.lexeme ++ rest) = none := by
  cases symbol with
  | number numeral => exact absurd rfl (other numeral)
  | string mark body =>
    have quote := formed.1
    simp only [isQuote, Bool.or_eq_true, beq_iff_eq] at quote
    rcases quote with rfl | rfl <;> exact numeralScan_eq_none (by decide) (by decide)
  | name text =>
    obtain ⟨c, others, spelled, starts, -⟩ := IsName.exists_cons formed
    rw [lexeme, spelled]
    refine numeralScan_eq_none (not_isDigit_of_isNameStart starts) ?_
    rintro rfl
    cases starts
  | operator op => cases op <;> exact numeralScan_eq_none (by decide) (by decide)
  | leftParen | rightParen | colon | equals => exact numeralScan_eq_none (by decide) (by decide)

theorem scanOther_eq_some_iff : scanOther text = some (symbol, rest) ↔
    (∀ numeral, symbol ≠ .number numeral) ∧
      text = symbol.lexeme ++ rest ∧ symbol.Formed ∧ symbol.Ends rest := by
  constructor
  · intro read
    cases text with
    | nil => cases read
    | cons c text =>
      rw [scanOther] at read
      by_cases quote : isQuote c = true
      · have notEscape : c ≠ '\\' := by
          rintro rfl
          cases quote
        rw [if_pos quote, Option.map_eq_some_iff] at read
        obtain ⟨⟨body, after⟩, inside, same⟩ := read
        obtain ⟨rfl, rfl⟩ := Prod.mk.inj same
        obtain ⟨rfl, quoted⟩ := (stringBody_eq_some_iff notEscape).mp inside
        exact ⟨by simp, by simp [lexeme], ⟨quote, quoted⟩, trivial⟩
      · rw [if_neg quote] at read
        by_cases starts : isNameStart c = true
        · rw [if_pos starts] at read
          obtain ⟨rfl, rfl⟩ := Prod.mk.inj (Option.some.inj read)
          refine ⟨by simp, ?_, ?_, clear_dropWhile⟩
          · rw [lexeme, String.toList_ofList, List.cons_append, List.takeWhile_append_dropWhile]
          · rw [Formed, String.toList_ofList]
            exact ⟨starts, fun other member => List.mem_takeWhile_imp member⟩
        · rw [if_neg starts, Option.map_eq_some_iff] at read
          obtain ⟨found, known, same⟩ := read
          obtain ⟨rfl, rfl⟩ := Prod.mk.inj same
          obtain ⟨isSign, spelled⟩ := ofChar?_eq_some_iff.mp known
          rw [spelled]
          cases found with
          | number | string | name => exact isSign.elim
          | operator | leftParen | rightParen | colon | equals => exact ⟨by simp, rfl, trivial, trivial⟩
  · rintro ⟨other, rfl, formed, ends⟩
    cases symbol with
    | number numeral => exact absurd rfl (other numeral)
    | string mark body =>
      obtain ⟨quote, quoted⟩ := formed
      have notEscape : mark ≠ '\\' := by
        rintro rfl
        cases quote
      have inside : stringBody mark (body ++ mark :: rest) = some (body, rest) :=
        (stringBody_eq_some_iff notEscape).mpr ⟨rfl, quoted⟩
      simp [lexeme, scanOther, quote, inside]
    | name text =>
      obtain ⟨c, others, spelled, starts, follow⟩ := IsName.exists_cons formed
      have notQuote : isQuote c = false := by
        refine Bool.eq_false_iff.mpr fun quote => ?_
        simp only [isQuote, Bool.or_eq_true, beq_iff_eq] at quote
        rcases quote with rfl | rfl <;> cases starts
      rw [lexeme, spelled, List.cons_append, scanOther, if_neg (by simp [notQuote]), if_pos starts,
        takeWhile_append_clear follow ends, dropWhile_append_clear follow ends, ← spelled,
        String.ofList_toList]
    | operator op => cases op <;> rfl
    | leftParen | rightParen | colon | equals => rfl

/-- A symbol is read exactly where it is written in its form and what follows does not
    continue it. -/
theorem scan_eq_some_iff : scan text = some (symbol, rest) ↔
    text = symbol.lexeme ++ rest ∧ symbol.Formed ∧ symbol.Ends rest := by
  constructor
  · intro read
    unfold scan at read
    split at read
    · next numeral after found =>
      obtain ⟨rfl, rfl⟩ := Prod.mk.inj (Option.some.inj read)
      exact Numeral.scan_eq_some_iff.mp found
    · exact (scanOther_eq_some_iff.mp read).2
  · rintro ⟨rfl, formed, ends⟩
    by_cases numerical : ∃ numeral, symbol = .number numeral
    · obtain ⟨numeral, rfl⟩ := numerical
      have found : Numeral.scan (lexeme (.number numeral) ++ rest) = some (numeral, rest) :=
        Numeral.scan_eq_some_iff.mpr ⟨rfl, formed, ends⟩
      rw [scan, found]
    · have other := not_exists.mp numerical
      rw [scan, numeralScan_of_other formed other]
      exact scanOther_eq_some_iff.mpr ⟨other, rfl, formed, ends⟩

/-! ### What may follow -/

theorem ends_nil : symbol.Ends [] := by
  cases symbol with
  | number numeral => exact Numeral.ends_nil
  | name text => exact nofun
  | string | operator | leftParen | rightParen | colon | equals => trivial

theorem Ends.of_append (ends : symbol.Ends (rest ++ more)) : symbol.Ends rest := by
  cases symbol with
  | number numeral => exact Numeral.Ends.of_append ends
  | name text => exact Clear.of_append ends
  | string | operator | leftParen | rightParen | colon | equals => trivial

/-- A text that is cut off farther on has the same symbol in front. -/
theorem scan_of_scan_append (read : scan (symbol.lexeme ++ (rest ++ more)) = some (symbol, rest ++ more)) :
    scan (symbol.lexeme ++ rest) = some (symbol, rest) := by
  obtain ⟨-, formed, ends⟩ := scan_eq_some_iff.mp read
  exact scan_eq_some_iff.mpr ⟨rfl, formed, ends.of_append⟩

/-- A character between symbols, or the mark of a comment. -/
def Separates (c : Char) : Prop := isSeparator c = true ∨ c = '#'

/-- No symbol goes on with a separator or a comment. -/
theorem Ends.append (ends : symbol.Ends rest) (separates : Separates c) :
    symbol.Ends (rest ++ c :: more) := by
  obtain ⟨notDigit, notPart, notPoint, notMark⟩ : isDigit c = false ∧ isNamePart c = false ∧
      c ≠ '.' ∧ c ∉ ['e', 'E', '+', '-'] := by
    rcases separates with separator | rfl
    · simp only [isSeparator, Bool.or_eq_true, beq_iff_eq] at separator
      rcases separator with ((rfl | rfl) | rfl) | rfl <;> decide
    · decide
  cases symbol with
  | number numeral => exact Numeral.Ends.append ends notDigit notPoint notMark
  | name text => exact Clear.append ends notPart
  | string | operator | leftParen | rightParen | colon | equals => trivial

/-- A text that goes on with a separator or a comment has the same symbol in front. -/
theorem scan_append_of_scan (read : scan text = some (symbol, rest)) (separates : Separates c) :
    scan (text ++ c :: more) = some (symbol, rest ++ c :: more) := by
  obtain ⟨rfl, formed, ends⟩ := scan_eq_some_iff.mp read
  exact scan_eq_some_iff.mpr ⟨List.append_assoc .., formed, ends.append separates⟩

/-! ### White space -/

/-- A symbol begins and ends with a character that is no white space. -/
theorem Formed.visible (formed : symbol.Formed) :
    (∀ c ∈ symbol.lexeme.head?, isBlank c = false) ∧
      ∀ c ∈ symbol.lexeme.getLast?, isBlank c = false := by
  have ofAll : (∀ c ∈ symbol.lexeme, isBlank c = false) →
      (∀ c ∈ symbol.lexeme.head?, isBlank c = false) ∧
        ∀ c ∈ symbol.lexeme.getLast?, isBlank c = false := fun all =>
    ⟨fun c first => all c (List.mem_of_head? first), fun c last => all c (List.mem_of_getLast? last)⟩
  cases symbol with
  | number numeral => exact ofAll fun c member => Numeral.Formed.visible formed member
  | name text => exact ofAll fun c member => not_isBlank_of_isNamePart (IsName.part formed member)
  | string mark body =>
    have quote := formed.1
    simp only [isQuote, Bool.or_eq_true, beq_iff_eq] at quote
    have visible : isBlank mark = false := by rcases quote with rfl | rfl <;> decide
    have last : (lexeme (.string mark body)).getLast? = some mark := List.getLast?_concat ..
    exact ⟨by simpa [lexeme] using visible, by simpa [last] using visible⟩
  | operator op => cases op <;> exact ofAll (List.forall_mem_singleton.mpr (by decide))
  | leftParen | rightParen | colon | equals =>
    exact ofAll (List.forall_mem_singleton.mpr (by decide))

end Symbol

end StepTrace
