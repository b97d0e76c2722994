import StepTrace.Numeral
import StepTrace.Text.Escape
import StepTrace.Text.Front
import StepTrace.Text.Integer
import StepTrace.Value

/-!
# Tokens of a JSON text

A JSON text is split into marks, strings and other values, each with the number of
characters before it. Infinities and the value that is no number may be written by
name. Reading ends at the first characters that form no token; how they are
reported depends on what was due there. Main statement: what follows a token is
shorter than the text that it was read from (`scanPiece_length`).
-/

namespace StepTrace.Json

/-- A part of a JSON text. -/
inductive Piece where
  | mark (c : Char)
  | text (text : Text)
  | value (value : Value)
  | badText (offset : Nat)
  | tooLong
  | other
  deriving Repr

/-- A part of a text with the number of characters before it. -/
structure Token where
  offset : Nat
  piece : Piece
  deriving Repr

/-- The white space between tokens. -/
def isSpace (c : Char) : Bool := c == ' ' || c == '\t' || c == '\n' || c == '\r'

/-! ## Strings -/

/-- The character of an escape of one letter. -/
def shortEscaped? (c : Char) : Option Char :=
  [('\x22', '\x22'), ('\\', '\\'), ('/', '/'), ('b', '\x08'), ('f', '\x0c'), ('n', '\n'),
    ('r', '\r'), ('t', '\t')].lookup c

/-- The code point of an escape that begins with `u`, given what follows that
    letter, and how many characters it takes. There has to be one more character
    after the digits. A unit that is half of a pair takes the other half with it. -/
def unitEscaped (offset : Nat) (digits : List Char) :
    Except Nat (Option Text.Point × Nat) :=
  if digits.length < 5 then .error offset
  else
    match Text.hexNumber? (digits.take 4) with
    | none => .error offset
    | some high =>
      match digits.drop 4 with
      | '\\' :: 'u' :: more =>
        if Text.isHighUnit high ∧ 5 ≤ more.length then
          match Text.hexNumber? (more.take 4) with
          | none => .error (offset + 6)
          | some low =>
            if Text.isLowUnit low then .ok (Text.Point.ofCode? (Text.pairCode high low), 10)
            else .ok (Text.Point.ofCode? high, 4)
        else .ok (Text.Point.ofCode? high, 4)
      | _ => .ok (Text.Point.ofCode? high, 4)

/-- The rest of a string that began at an offset, from another offset on, after
    the code points read so far, the last one first. Returns the string, the offset
    after its closing quote, and what follows; or the offset of what is wrong. -/
def stringAfter (start offset : Nat) (read : List Text.Point) (text : List Char) :
    Except Nat (Text × Nat × List Char) :=
  match text with
  | [] => .error start
  | '\x22' :: rest => .ok (⟨read.reverse⟩, offset + 1, rest)
  | '\\' :: [] => .error start
  | '\\' :: 'u' :: digits =>
    match unitEscaped (offset + 1) digits with
    | .error wrong => .error wrong
    | .ok (point, used) =>
      stringAfter start (offset + 2 + used) (point.elim read (· :: read)) (digits.drop used)
  | '\\' :: c :: rest =>
    match shortEscaped? c with
    | some meant => stringAfter start (offset + 2) (.char meant :: read) rest
    | none => .error offset
  | c :: rest =>
    if c.toNat < 0x20 then .error offset else stringAfter start (offset + 1) (.char c :: read) rest
termination_by text.length
decreasing_by all_goals simp only [List.length_cons, List.length_drop]; omega

/-! ## Numbers -/

/-- An ASCII digit. -/
def isDigit (c : Char) : Bool := '0' ≤ c && c ≤ '9'

/-- The digits before the point: a zero alone, or digits that begin with another. -/
def scanWhole : List Char → Option (List Char × List Char)
  | [] => none
  | c :: rest =>
    if c = '0' then some (['0'], rest)
    else if isDigit c then some (c :: rest.takeWhile isDigit, rest.dropWhile isDigit)
    else none

/-- A point with digits after it, if there is one. -/
def scanFraction (text : List Char) : Option (List Char) × List Char :=
  match text with
  | '.' :: c :: rest =>
    if isDigit c then (some (c :: rest.takeWhile isDigit), rest.dropWhile isDigit)
    else (none, text)
  | _ => (none, text)

/-- The letter of an exponent with its digits, if there is one. -/
def scanExponent (text : List Char) : Option (List Char × List Char) × List Char :=
  match Numeral.exponentLetter? text with
  | none => (none, text)
  | some (letter, after) =>
    let digits := after.takeWhile isDigit
    if digits = [] then (none, text) else (some (letter, digits), after.dropWhile isDigit)

/-- The number at the front of a text, as a sign and a numeral. -/
def scanNumber (text : List Char) : Option (Bool × Numeral × List Char) := do
  let (negative, body) := match text with
    | '-' :: rest => (true, rest)
    | _ => (false, text)
  let (whole, rest) ← scanWhole body
  let (fraction, rest) := scanFraction rest
  let (exponent, rest) := scanExponent rest
  return (negative, ⟨whole, fraction, exponent⟩, rest)

/-- The value of a number. A numeral without point and exponent is an integer. -/
def numberPiece (negative : Bool) (numeral : Numeral) : Piece :=
  if numeral.isInteger then
    if Text.digitLimit < numeral.whole.length then .tooLong
    else .value (.int (Text.signed negative (Text.natOfDigits numeral.whole)))
  else .value (.float (numeral.toBinary64 negative))

/-! ## Tokens -/

/-- The values that are written by name. -/
def named : List (List Char × Value) :=
  [("null".toList, .null), ("true".toList, .bool true), ("false".toList, .bool false),
    ("NaN".toList, .float .nan), ("Infinity".toList, .float (.infinite false)),
    ("-Infinity".toList, .float (.infinite true))]

/-- The value at the front of a text that is written by name, the length of the
    name, and what follows. -/
def scanNamed (text : List Char) : Option (Value × Nat × List Char) :=
  named.findSome? fun (name, value) =>
    (Text.afterFront? name text).map fun after => (value, name.length, after)

/-- The length of a number with its sign. -/
def numberLength (negative : Bool) (numeral : Numeral) : Nat :=
  numeral.lexeme.length + if negative then 1 else 0

/-- The token at the front of a text that does not begin with white space, and
    what follows it with its offset; nothing follows characters that go wrong. -/
def scanPiece (offset : Nat) (text : List Char) : Piece × Nat × List Char :=
  match text with
  | [] => (.other, offset, [])
  | c :: rest =>
    if c ∈ ['[', ']', '\x7b', '\x7d', ':', ','] then (.mark c, offset + 1, rest)
    else if c = '\x22' then
      match stringAfter offset (offset + 1) [] rest with
      | .ok (found, next, after) => (.text found, next, after)
      | .error wrong => (.badText wrong, offset, [])
    else
      match scanNamed text with
      | some (value, length, after) => (.value value, offset + length, after)
      | none =>
        match scanNumber text with
        | some (negative, numeral, after) =>
          (numberPiece negative numeral, offset + numberLength negative numeral, after)
        | none => (.other, offset, [])

/-! ### A token shortens the text -/

private theorem stringAfter_length {start offset next : Nat} {read : List Text.Point}
    {text rest : List Char} {found : Text}
    (ended : stringAfter start offset read text = .ok (found, next, rest)) :
    rest.length ≤ text.length := by
  fun_induction stringAfter start offset read text <;> grind

private theorem scanNamed_length {text after : List Char} {value : Value} {length : Nat}
    (found : scanNamed text = some (value, length, after)) : after.length < text.length := by
  obtain ⟨⟨name, held⟩, known, front⟩ := List.exists_of_findSome?_eq_some found
  obtain ⟨rest, reads, same⟩ := Option.map_eq_some_iff.1 front
  obtain ⟨rfl, rfl, rfl⟩ := by simpa using same
  rw [Text.afterFront?_eq_some.1 reads, List.length_append]
  have : 0 < name.length := by
    simp only [named, List.mem_cons, Prod.mk.injEq] at known
    grind
  omega

private theorem scanWhole_length {text digits rest : List Char}
    (read : scanWhole text = some (digits, rest)) : rest.length < text.length := by
  unfold scanWhole at read
  split at read
  · simp at read
  · next c text =>
    have := (List.dropWhile_sublist isDigit (l := text)).length_le
    grind

private theorem scanFraction_length (text : List Char) :
    (scanFraction text).2.length ≤ text.length := by
  unfold scanFraction
  split
  · next c text =>
    have := (List.dropWhile_sublist isDigit (l := text)).length_le
    grind
  · exact Nat.le_refl _

private theorem scanExponent_length (text : List Char) :
    (scanExponent text).2.length ≤ text.length := by
  unfold scanExponent
  split
  · exact Nat.le_refl _
  · next letter after front =>
    have := (List.dropWhile_sublist isDigit (l := after)).length_le
    have : after.length ≤ text.length := by
      unfold Numeral.exponentLetter? at front
      grind
    grind

private theorem scanNumber_length {text after : List Char} {negative : Bool} {numeral : Numeral}
    (read : scanNumber text = some (negative, numeral, after)) : after.length < text.length := by
  unfold scanNumber at read
  obtain ⟨⟨whole, rest⟩, digits, rest_read⟩ := Option.bind_eq_some_iff.1 read
  have shorter := scanWhole_length digits
  have fraction := scanFraction_length rest
  have exponent := scanExponent_length (scanFraction rest).2
  obtain ⟨_, _, rfl⟩ := by simpa using rest_read
  have : (match text with
    | '-' :: rest => (true, rest)
    | _ => (false, text)).2.length ≤ text.length := by
    split <;> simp
  omega

/-- What follows a token is shorter than the text that it was read from. -/
theorem scanPiece_length (offset : Nat) (c : Char) (rest : List Char) :
    (scanPiece offset (c :: rest)).2.2.length < (c :: rest).length := by
  unfold scanPiece
  dsimp only
  split
  · simp
  · split
    · split
      · next ended => exact Nat.lt_succ_of_le (stringAfter_length ended)
      · simp
    · split
      · next found => exact scanNamed_length found
      · split
        · next read => exact scanNumber_length read
        · simp

/-- The tokens of a text from an offset on. -/
def tokens (offset : Nat) (text : List Char) : List Token :=
  match text with
  | [] => []
  | c :: rest =>
    if isSpace c then tokens (offset + 1) rest
    else
      let scanned := scanPiece offset (c :: rest)
      ⟨offset, scanned.1⟩ :: tokens scanned.2.1 scanned.2.2
termination_by text.length
decreasing_by
  · simp
  · exact scanPiece_length offset c rest

end StepTrace.Json
