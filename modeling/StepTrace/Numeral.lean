import StepTrace.Binary64.Decimal
import StepTrace.Text.DecimalDigit

/-!
# Numerals

The numbers that a program or an answer writes: digits with an optional point
among or beside them and an optional exponent. A numeral of digits alone is an
integer; the others are floating-point numbers. A numeral keeps its own
characters, so the text that was read can be written again.
-/

namespace StepTrace

/-- A numeral by its parts. -/
structure Numeral where
  whole : List Char
  fraction : Option (List Char)
  /-- The letter and sign of the exponent, and its digits. -/
  exponent : Option (List Char × List Char)
  deriving DecidableEq, Repr

namespace Numeral

/-- The characters of a numeral. -/
def lexeme (numeral : Numeral) : List Char :=
  numeral.whole ++ (numeral.fraction.elim [] ('.' :: ·) ++
    numeral.exponent.elim [] fun (letter, digits) => letter ++ digits)

/-! ## Reading -/

/-- The digits and point at the front of a text, and what follows them. -/
def scanMantissa (text : List Char) : Option (List Char × Option (List Char) × List Char) :=
  let whole := text.takeWhile Text.isDigit
  match text.dropWhile Text.isDigit with
  | '.' :: after =>
    let fraction := after.takeWhile Text.isDigit
    if whole = [] ∧ fraction = [] then none
    else some (whole, some fraction, after.dropWhile Text.isDigit)
  | after => if whole = [] then none else some (whole, none, after)

/-- The letter of an exponent with its sign, and what follows them. -/
def exponentLetter? : List Char → Option (List Char × List Char)
  | c :: rest =>
    if c = 'e' ∨ c = 'E' then
      match rest with
      | '+' :: after => some ([c, '+'], after)
      | '-' :: after => some ([c, '-'], after)
      | _ => some ([c], rest)
    else none
  | [] => none

/-- The exponent at the front of a text, if there is one, and what follows it.
    A letter that no digits follow is no exponent. -/
def scanExponent (text : List Char) : Option (List Char × List Char) × List Char :=
  match exponentLetter? text with
  | none => (none, text)
  | some (letter, after) =>
    let digits := after.takeWhile Text.isDigit
    if digits = [] then (none, text) else (some (letter, digits), after.dropWhile Text.isDigit)

/-- The longest numeral at the front of a text, and what follows it. -/
def scan (text : List Char) : Option (Numeral × List Char) :=
  match scanMantissa text with
  | none => none
  | some (whole, fraction, after) =>
    some (⟨whole, fraction, (scanExponent after).1⟩, (scanExponent after).2)

/-! ## Meaning -/

/-- Digits alone, which write an integer. -/
def isInteger (numeral : Numeral) : Bool := numeral.fraction.isNone && numeral.exponent.isNone

/-- The power of ten that the exponent names. -/
def power (numeral : Numeral) : Int :=
  numeral.exponent.elim 0 fun (letter, digits) =>
    if '-' ∈ letter then -(Text.natOfDigits digits : Int) else Text.natOfDigits digits

/-- The floating-point number nearest to a numeral with a sign. -/
def toBinary64 (numeral : Numeral) (negative : Bool) : Binary64 :=
  let fraction := numeral.fraction.getD []
  Binary64.ofDecimal negative (Text.natOfDigits (numeral.whole ++ fraction))
    (numeral.power - fraction.length)

/-! ## What is read is the front of the text -/

private theorem scanMantissa_append {text whole rest : List Char} {fraction : Option (List Char)}
    (read : scanMantissa text = some (whole, fraction, rest)) :
    whole ++ (fraction.elim [] ('.' :: ·) ++ rest) = text ∧ (whole ≠ [] ∨ fraction.isSome) := by
  have parts := List.takeWhile_append_dropWhile (p := Text.isDigit) (l := text)
  unfold scanMantissa at read
  split at read
  · next after point =>
    dsimp only at read
    split at read
    · simp at read
    · next some_digit =>
      obtain ⟨rfl, rfl, rfl⟩ := by simpa using read
      refine ⟨?_, .inr rfl⟩
      rw [point] at parts
      simpa [List.takeWhile_append_dropWhile] using parts
  · dsimp only at read
    split at read
    · simp at read
    · next some_digit =>
      obtain ⟨rfl, rfl, rfl⟩ := by simpa using read
      exact ⟨by simp [parts], .inl some_digit⟩

private theorem exponentLetter?_append {text letter rest : List Char}
    (read : exponentLetter? text = some (letter, rest)) : letter ++ rest = text := by
  unfold exponentLetter? at read
  split at read
  · split at read
    · split at read <;> (obtain ⟨rfl, rfl⟩ := by simpa using read) <;> rfl
    · simp at read
  · simp at read

private theorem scanExponent_append {text rest : List Char}
    {exponent : Option (List Char × List Char)} (read : scanExponent text = (exponent, rest)) :
    (exponent.elim [] fun (letter, digits) => letter ++ digits) ++ rest = text := by
  unfold scanExponent at read
  split at read
  · obtain ⟨rfl, rfl⟩ := by simpa using read
    rfl
  · next letter after front =>
    dsimp only at read
    split at read
    · obtain ⟨rfl, rfl⟩ := by simpa using read
      rfl
    · obtain ⟨rfl, rfl⟩ := by simpa using read
      simpa [List.takeWhile_append_dropWhile] using exponentLetter?_append front

/-- A numeral is the front of the text that it was read from, and is not empty. -/
theorem scan_append {text rest : List Char} {numeral : Numeral}
    (read : scan text = some (numeral, rest)) :
    numeral.lexeme ++ rest = text ∧ numeral.lexeme ≠ [] := by
  unfold scan at read
  split at read
  · simp at read
  · next whole fraction after front =>
    obtain ⟨rfl, rfl⟩ := by simpa using read
    have mantissa := scanMantissa_append front
    have exponent := scanExponent_append (Prod.eta (scanExponent after)).symm
    refine ⟨?_, ?_⟩
    · simpa [lexeme, exponent] using mantissa.1
    · rcases mantissa.2 with some_digit | point
      · simp [lexeme, some_digit]
      · obtain ⟨digits, rfl⟩ := Option.isSome_iff_exists.1 point
        simp [lexeme]

end Numeral

end StepTrace
