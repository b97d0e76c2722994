import StepTrace.Token

/-!
# Reading tokens

A line is split into tokens from left to right, each as long as it can be. Space,
tab, carriage return and form feed separate tokens and are skipped; a `#` outside
a string ends the line. Main statement: a symbol is the front of the text that it
was read from (`Symbol.scan_append`), so every step shortens the text.
-/

namespace StepTrace

/-- The characters that are skipped between tokens. -/
def isSeparator (c : Char) : Bool := c == ' ' || c == '\t' || c == '\r' || c == '\x0c'

/-- The two quotes. -/
def isQuote (c : Char) : Bool := c == '\x22' || c == '\x27'

/-- A letter of the alphabet or an underscore. -/
def isNameStart (c : Char) : Bool := c.isAlpha || c == '_'

/-- A character that may follow in a name. -/
def isNamePart (c : Char) : Bool := c.isAlphanum || c == '_'

namespace Symbol

/-- The characters up to a closing quote, and what follows it. A backslash takes
    the next character with it; a line end closes nothing. -/
def stringBody (mark : Char) : List Char → Option (List Char × List Char)
  | [] => none
  | '\\' :: c :: rest =>
    if c = '\n' then none
    else (stringBody mark rest).map fun (body, after) => ('\\' :: c :: body, after)
  | c :: rest =>
    if c = mark then some ([], rest)
    else if c = '\n' ∨ c = '\\' then none
    else (stringBody mark rest).map fun (body, after) => (c :: body, after)

/-- The symbols of a single character. -/
def ofChar? (c : Char) : Option Symbol :=
  [('+', operator .add), ('-', operator .sub), ('*', operator .mul), ('/', operator .div),
    ('(', leftParen), (')', rightParen), (':', colon), ('=', equals)].lookup c

/-- The string, name or single character at the front of a text. -/
def scanOther : List Char → Option (Symbol × List Char)
  | [] => none
  | c :: rest =>
    if isQuote c then (stringBody c rest).map fun (body, after) => (string c body, after)
    else if isNameStart c then
      some (name (String.ofList (c :: rest.takeWhile isNamePart)), rest.dropWhile isNamePart)
    else (ofChar? c).map fun symbol => (symbol, rest)

/-- The longest symbol at the front of a text, and what follows it. -/
def scan (text : List Char) : Option (Symbol × List Char) :=
  match Numeral.scan text with
  | some (numeral, rest) => some (number numeral, rest)
  | none => scanOther text

/-! ## What is read is the front of the text -/

private theorem stringBody_append {mark : Char} {text body rest : List Char}
    (read : stringBody mark text = some (body, rest)) : body ++ mark :: rest = text := by
  fun_induction stringBody mark text generalizing body with
  | case1 => simp at read
  | case2 => simp at read
  | case3 c text _ ih =>
    obtain ⟨⟨inner, after⟩, inside, same⟩ := Option.map_eq_some_iff.1 read
    obtain ⟨rfl, rfl⟩ := by simpa using same
    simpa using ih inside
  | case4 =>
    obtain ⟨rfl, rfl⟩ := by simpa using read
    rfl
  | case5 => simp at read
  | case6 c text _ _ _ ih =>
    obtain ⟨⟨inner, after⟩, inside, same⟩ := Option.map_eq_some_iff.1 read
    obtain ⟨rfl, rfl⟩ := by simpa using same
    simpa using ih inside

private theorem ofChar?_lexeme {c : Char} {symbol : Symbol} (read : ofChar? c = some symbol) :
    symbol.lexeme = [c] := by
  simp only [ofChar?, List.lookup_cons, List.lookup_nil] at read
  repeat' split at read
  all_goals simp_all
  all_goals subst read; simp [lexeme, Operator.symbol]

private theorem scanOther_append {text rest : List Char} {symbol : Symbol}
    (read : scanOther text = some (symbol, rest)) :
    symbol.lexeme ++ rest = text ∧ symbol.lexeme ≠ [] := by
  unfold scanOther at read
  split at read
  · simp at read
  · next c text =>
    split at read
    · obtain ⟨⟨body, after⟩, inside, same⟩ := Option.map_eq_some_iff.1 read
      obtain ⟨rfl, rfl⟩ := by simpa using same
      simp [lexeme, stringBody_append inside]
    · split at read
      · obtain ⟨rfl, rfl⟩ := by simpa using read
        simp [lexeme, List.takeWhile_append_dropWhile]
      · obtain ⟨found, known, same⟩ := Option.map_eq_some_iff.1 read
        obtain ⟨rfl, rfl⟩ := by simpa using same
        simp [ofChar?_lexeme known]

/-- A symbol is the front of the text that it was read from, and is not empty. -/
theorem scan_append {text rest : List Char} {symbol : Symbol}
    (read : scan text = some (symbol, rest)) :
    symbol.lexeme ++ rest = text ∧ symbol.lexeme ≠ [] := by
  unfold scan at read
  split at read
  · next numeral after front =>
    obtain ⟨rfl, rfl⟩ := by simpa using read
    exact Numeral.scan_append front
  · exact scanOther_append read

/-- What follows a symbol is shorter than the text it was read from. -/
theorem scan_length {text rest : List Char} {symbol : Symbol}
    (read : scan text = some (symbol, rest)) : rest.length < text.length := by
  obtain ⟨same, some_character⟩ := scan_append read
  have := List.length_pos_iff.2 some_character
  rw [← same, List.length_append]
  omega

end Symbol

namespace Tokens

/-- Why no token begins with a character. -/
def refusal (c : Char) : Cause :=
  if isQuote c then .unterminatedString else .invalidCharacter c

/-- The tokens of what is left of a line from a column on. -/
def scanFrom (line : List Char) (column : Nat) (text : List Char) : Except Fault (List Token) :=
  match text with
  | [] => .ok []
  | c :: rest =>
    if isSeparator c then scanFrom line (column + 1) rest
    else if c = '#' then .ok []
    else
      match _read : Symbol.scan (c :: rest) with
      | some (symbol, after) =>
        (scanFrom line (column + symbol.lexeme.length) after).map (⟨symbol, column⟩ :: ·)
      | none => .error (Fault.about (refusal c) column line)
termination_by text.length
decreasing_by
  · simp
  · exact Symbol.scan_length _read

/-! ### The rules, by what stands in front -/

@[simp] theorem scanFrom_nil (line : List Char) (column : Nat) :
    scanFrom line column [] = .ok [] := by
  rw [scanFrom]

/-- A separator is skipped. -/
theorem scanFrom_separator (line rest : List Char) (column : Nat) {c : Char}
    (separator : isSeparator c = true) :
    scanFrom line column (c :: rest) = scanFrom line (column + 1) rest := by
  rw [scanFrom, if_pos separator]

/-- A comment ends the line. -/
@[simp] theorem scanFrom_comment (line rest : List Char) (column : Nat) :
    scanFrom line column ('#' :: rest) = .ok [] := by
  rw [scanFrom, if_neg (by decide), if_pos rfl]

/-- A symbol is a token at its column. -/
theorem scanFrom_symbol (line : List Char) (column : Nat) {c : Char} {rest after : List Char}
    {symbol : Symbol} (starts : isSeparator c = false) (no_comment : c ≠ '#')
    (read : Symbol.scan (c :: rest) = some (symbol, after)) :
    scanFrom line column (c :: rest) =
      (scanFrom line (column + symbol.lexeme.length) after).map (⟨symbol, column⟩ :: ·) := by
  rw [scanFrom, if_neg (by simp [starts]), if_neg no_comment]
  split
  · next found =>
    obtain ⟨rfl, rfl⟩ := by simpa [read] using found
    rfl
  · next missing => simp [read] at missing

/-- A character that begins nothing is refused at its column. -/
theorem scanFrom_refused (line : List Char) (column : Nat) {c : Char} {rest : List Char}
    (starts : isSeparator c = false) (no_comment : c ≠ '#')
    (nothing : Symbol.scan (c :: rest) = none) :
    scanFrom line column (c :: rest) = .error (Fault.about (refusal c) column line) := by
  rw [scanFrom, if_neg (by simp [starts]), if_neg no_comment]
  split
  · next found => simp [nothing] at found
  · rfl

/-- The tokens of a line. -/
def ofLine (line : List Char) : Except Fault Tokens :=
  (scanFrom line 1 line).map fun tokens => ⟨tokens, line.length + 1⟩

end Tokens

end StepTrace
