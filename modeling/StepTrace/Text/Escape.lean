import StepTrace.Text
import StepTrace.Text.Hex

/-!
# Escapes of a string literal

What the characters between the quotes of a string literal stand for. A
backslash begins an escape: a letter for a control character, up to three octal
digits, a fixed number of hexadecimal digits after `x`, `u` or `U`, or the name of
a character between braces after `N`. Which names there are is left open. Before
any other character the backslash stands for itself. A carriage return is a line
end and so is allowed only after a backslash, where both vanish; the null
character is never allowed.
-/

namespace StepTrace

/-- The names that characters have. -/
class CharacterNames where
  /-- The character with a name, if there is one. -/
  named? : List Char → Option Char

/-- No character has a name. -/
@[reducible] def CharacterNames.unnamed : CharacterNames := ⟨fun _ => none⟩

namespace Text

/-- The value of an octal digit. -/
def octalValue? (c : Char) : Option Nat :=
  if '0' ≤ c ∧ c ≤ '7' then some (c.toNat - '0'.toNat) else none

/-- The leading octal digits of a text, at most so many of them. -/
def octalRun : Nat → List Char → List Nat
  | limit + 1, c :: rest =>
    match octalValue? c with
    | some digit => digit :: octalRun limit rest
    | none => []
  | _, _ => []

/-- An escape with a fixed number of hexadecimal digits. -/
def hexEscape (width : Nat) (digits : List Char) : Option (List Point × Nat) :=
  if digits.length < width then none
  else do
    let code ← hexNumber? (digits.take width)
    let point ← Point.ofCode? code
    some ([point], width + 1)

/-- An escape with the name of a character, which is not empty. -/
def nameEscape [CharacterNames] : List Char → Option (List Point × Nat)
  | '\x7b' :: rest =>
    let name := rest.takeWhile (· != '\x7d')
    if name = [] ∨ name.length = rest.length ∨ '\x00' ∈ name ∨ '\r' ∈ name then none
    else (CharacterNames.named? name).map fun c => ([.char c], name.length + 3)
  | _ => none

/-- The control character that a letter stands for after a backslash, or the
    character itself for a backslash and the two quotes. -/
def simpleEscape? (c : Char) : Option Char :=
  [('a', '\x07'), ('b', '\x08'), ('f', '\x0c'), ('n', '\n'), ('r', '\r'), ('t', '\t'),
    ('v', '\x0b'), ('\\', '\\'), ('\x27', '\x27'), ('\x22', '\x22')].lookup c

/-- What a text stands for that follows a backslash: the code points meant and
    the number of characters read. -/
def escape [CharacterNames] : List Char → Option (List Point × Nat)
  | [] => none
  | c :: rest =>
    if c = '\x00' then none
    else if c = '\r' then some ([], 1)
    else if c = 'x' then hexEscape 2 rest
    else if c = 'u' then hexEscape 4 rest
    else if c = 'U' then hexEscape 8 rest
    else if c = 'N' then nameEscape rest
    else
      match octalRun 3 (c :: rest) with
      | [] => some (((simpleEscape? c).elim ['\\', c] ([·])).map .char, 1)
      | digits => some ([.char (Char.ofNat (digits.foldl (8 * · + ·) 0))], digits.length)

/-- What the characters between the quotes of a literal stand for, or nothing
    when they form no literal. -/
def unescape [CharacterNames] : List Char → Option (List Point)
  | [] => some []
  | c :: rest =>
    if c = '\x00' ∨ c = '\r' then none
    else if c = '\\' then
      match escape rest with
      | none => none
      | some (meant, used) => (unescape (rest.drop used)).map (meant ++ ·)
    else (unescape rest).map (.char c :: ·)
termination_by text => text.length
decreasing_by all_goals simp only [List.length_cons, List.length_drop]; omega

end Text

end StepTrace
