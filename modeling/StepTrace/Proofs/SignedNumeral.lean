import StepTrace.Proofs.Binary64.Rounding
import StepTrace.Proofs.Evaluation
import StepTrace.Proofs.Grammar.Phrase
import StepTrace.Proofs.Numeral
import StepTrace.Proofs.Token.Parts

/-!
# Signed numerals

A numeral with a sign in front of it or none is read by an answer, which takes the sign as a part
of it, and by the source, where the sign is an operation on it. Both come to the same number
(`SignedNumeral.readNumber?_eq_some_iff`, `SignedNumeral.evalText_eq_ok_iff`), since rounding
does not depend on the sign. Every integer is written as one (`SignedNumeral.lexeme_ofInt`).
-/

namespace StepTrace

open Run (bind_eq_ok map_eq_ok mapError_eq_ok)
open Text (isBlank isDigit natOfDigits)

/-- A numeral with a sign in front of it, or none. -/
structure SignedNumeral where
  sign : Option Sign
  numeral : Numeral
  deriving DecidableEq, Repr

namespace SignedNumeral

variable {signed : SignedNumeral} {text before after : List Char} {number own : Number}

/-- The characters of a signed numeral. -/
def lexeme (signed : SignedNumeral) : List Char :=
  signed.sign.elim [] (fun sign => [sign.symbol]) ++ signed.numeral.lexeme

/-- The sign is a minus. -/
def isNegative (signed : SignedNumeral) : Bool := signed.sign == some .minus

/-- What a number becomes behind the sign. -/
def apply (signed : SignedNumeral) (own : Number) : Number :=
  signed.sign.elim own fun sign => own.signed sign

/-- What the numeral denotes in the source, behind the sign. -/
def Means [CharacterNames] (signed : SignedNumeral) (number : Number) : Prop :=
  ∃ own : Number, Denotes (.number signed.numeral) own.toValue ∧ number = signed.apply own

/-! ## Characters -/

/-- A numeral begins with no sign. -/
theorem splitSign_lexeme (formed : signed.numeral.Formed) :
    Text.splitSign signed.lexeme = (signed.isNegative, signed.numeral.lexeme) := by
  obtain ⟨sign, numeral⟩ := signed
  cases sign with
  | some sign => cases sign <;> rfl
  | none =>
    -- A sign in front would be no numeral, but the characters are read as one.
    have read : Numeral.scan numeral.lexeme = some (numeral, []) := Numeral.scan_lexeme formed
    show Text.splitSign numeral.lexeme = (false, numeral.lexeme)
    unfold Text.splitSign
    split
    · next rest spelled =>
      rw [spelled, Symbol.numeralScan_eq_none (by decide) (by decide)] at read
      cases read
    · next rest spelled =>
      rw [spelled, Symbol.numeralScan_eq_none (by decide) (by decide)] at read
      cases read
    · rfl

/-- A text is its sign, if it has one, and the rest. -/
private theorem exists_of_splitSign {negative : Bool} {body : List Char}
    (split : Text.splitSign text = (negative, body)) : ∃ sign : Option Sign,
      text = sign.elim [] (fun sign => [sign.symbol]) ++ body ∧
        negative = (sign == some .minus) := by
  unfold Text.splitSign at split
  split at split <;> obtain ⟨rfl, rfl⟩ := Prod.mk.inj split
  · exact ⟨some .minus, rfl, rfl⟩
  · exact ⟨some .plus, rfl, rfl⟩
  · exact ⟨none, rfl, rfl⟩

theorem lexeme_ne_nil (formed : signed.numeral.Formed) : signed.lexeme ≠ [] := by
  have nonempty := (Numeral.scan_append (Numeral.scan_lexeme formed)).2
  exact List.append_ne_nil_of_right_ne_nil _ nonempty

/-- No character of a signed numeral is white space. -/
theorem visible (formed : signed.numeral.Formed) {c : Char} (member : c ∈ signed.lexeme) :
    isBlank c = false := by
  obtain ⟨sign, numeral⟩ := signed
  rw [lexeme, List.mem_append] at member
  rcases member with inSign | inNumeral
  · cases sign with
    | none => cases inSign
    | some sign =>
      obtain rfl := List.mem_singleton.mp inSign
      cases sign <;> decide
  · exact Numeral.Formed.visible formed inNumeral

/-- White space around a signed numeral is cut off. -/
theorem trim_surrounded (formed : signed.numeral.Formed)
    (blankBefore : ∀ c ∈ before, isBlank c = true) (blankAfter : ∀ c ∈ after, isBlank c = true) :
    Text.trim (before ++ (signed.lexeme ++ after)) = signed.lexeme := by
  obtain ⟨last, ends⟩ := Option.isSome_iff_exists.mp
    (List.getLast?_isSome.mpr (lexeme_ne_nil formed))
  exact Text.trim_surrounded blankBefore blankAfter
    (fun c first => visible formed (List.mem_of_head? first)) ends
    (visible formed (List.mem_of_getLast? ends))

/-! ## The number of an answer -/

private theorem apply_int (n : Nat) :
    signed.apply (.int n) = .int (Text.signed signed.isNegative n) := by
  obtain ⟨sign, numeral⟩ := signed
  cases sign with
  | none => rfl
  | some sign => cases sign <;> rfl

/-- The number nearest to a numeral with a minus is the opposite of the one nearest to it. -/
private theorem apply_float : signed.apply (.float (signed.numeral.toBinary64 false)) =
    .float (signed.numeral.toBinary64 signed.isNegative) := by
  obtain ⟨sign, numeral⟩ := signed
  cases sign with
  | none => rfl
  | some sign =>
    cases sign with
    | plus => rfl
    | minus => exact congrArg Number.float (Binary64.neg_ofDecimal ..)

private theorem isFinite_toBinary64 (numeral : Numeral) (negative : Bool) :
    (numeral.toBinary64 negative).isFinite = (numeral.toBinary64 false).isFinite := by
  cases negative with
  | false => rfl
  | true =>
    have opposite : (numeral.toBinary64 false).neg = numeral.toBinary64 true :=
      Binary64.neg_ofDecimal ..
    rw [← opposite, Binary64.isFinite_neg]

/-- An answer takes a signed numeral for what it means in the source. -/
theorem number?_eq_some_iff [CharacterNames] :
    Answer.number? signed.isNegative signed.numeral = some number ↔ signed.Means number := by
  have finite := isFinite_toBinary64 signed.numeral signed.isNegative
  unfold Answer.number?
  constructor
  · intro known
    by_cases integer : signed.numeral.isInteger = true
    · by_cases short : signed.numeral.whole.length ≤ Text.digitLimit
      · simp only [integer, short, if_true, Option.some.injEq] at known
        exact ⟨.int (natOfDigits signed.numeral.whole), .integer integer short,
          known.symm.trans (apply_int _).symm⟩
      · simp [integer, short] at known
    · have broken : signed.numeral.isInteger = false := by simpa using integer
      by_cases isFinite : (signed.numeral.toBinary64 false).isFinite = true
      · simp only [broken, finite, isFinite, if_true, Bool.false_eq_true, if_false,
          Option.some.injEq] at known
        exact ⟨.float (signed.numeral.toBinary64 false), .float broken isFinite,
          known.symm.trans apply_float.symm⟩
      · simp [broken, finite, isFinite] at known
  · rintro ⟨own, denotes, rfl⟩
    generalize held : own.toValue = value at denotes
    cases denotes with
    | integer integer short =>
      obtain rfl := Option.some.inj (Value.number?_eq_some.mpr held.symm)
      simp [integer, short, apply_int]
    | float broken isFinite =>
      obtain rfl := Option.some.inj (Value.number?_eq_some.mpr held.symm)
      simp [broken, finite, isFinite, apply_float]

/-- A signed numeral between white space is read as a whole. -/
theorem readNumber?_of_trim (formed : signed.numeral.Formed)
    (trimmed : Text.trim text = signed.lexeme) :
    Answer.readNumber? text = Answer.number? signed.isNegative signed.numeral := by
  unfold Answer.readNumber?
  rw [trimmed, splitSign_lexeme formed]
  simp only [Numeral.scan_lexeme formed]

/-- An answer is a number exactly where it is a signed numeral that stands for it. -/
theorem readNumber?_eq_number?_iff : Answer.readNumber? text = some number ↔
    ∃ signed : SignedNumeral, Text.trim text = signed.lexeme ∧ signed.numeral.Formed ∧
      Answer.number? signed.isNegative signed.numeral = some number := by
  constructor
  · intro read
    unfold Answer.readNumber? at read
    cases split : Text.splitSign (Text.trim text) with
    | mk negative body =>
      obtain ⟨sign, whole, rfl⟩ := exists_of_splitSign split
      rw [split] at read
      dsimp only at read
      split at read
      · next numeral scanned =>
        obtain ⟨spelled, formed, -⟩ := Numeral.scan_eq_some_iff.mp scanned
        rw [List.append_nil] at spelled
        refine ⟨⟨sign, numeral⟩, ?_, formed, read⟩
        rw [whole, spelled, lexeme]
      · cases read
  · rintro ⟨signed, trimmed, formed, stands⟩
    rw [readNumber?_of_trim formed trimmed, stands]

/-- An answer is a number exactly where it is a signed numeral that means it. -/
theorem readNumber?_eq_some_iff [CharacterNames] : Answer.readNumber? text = some number ↔
    ∃ signed : SignedNumeral,
      Text.trim text = signed.lexeme ∧ signed.numeral.Formed ∧ signed.Means number := by
  simp only [readNumber?_eq_number?_iff, number?_eq_some_iff]

/-! ## The value in the source -/

/-- The column of the numeral. -/
private def column (signed : SignedNumeral) : Nat := signed.sign.elim 1 fun _ => 2

/-- The tree of a signed numeral, by that of the numeral. -/
private def tree (signed : SignedNumeral) (operand : Expr) : Expr :=
  signed.sign.elim operand fun sign => .unary 1 sign operand

private theorem scanFrom_numeral {numeral : Numeral} (line : List Char) (column : Nat)
    (formed : numeral.Formed) :
    Tokens.scanFrom line column numeral.lexeme = .ok [⟨.number numeral, column⟩] := by
  have numeric : (Symbol.number numeral).Formed := formed
  have scanned := Tokens.scanFrom_lexeme line column numeric Symbol.ends_nil
  rw [List.append_nil, Tokens.scanFrom_nil] at scanned
  exact scanned

/-- The reader fails at a numeral alone only for its value. -/
private theorem read_numeral [CharacterNames] (stop column : Nat) (numeral : Numeral) :
    Expr.read stop [⟨.number numeral, column⟩] =
      (Expr.ofNumeral column numeral).map fun operand => (operand, []) := by
  rw [Expr.read, Expr.readOn]
  cases Expr.ofNumeral column numeral <;> rfl

private theorem read_signed [CharacterNames] (stop first column : Nat) (sign : Sign) (op : Operator)
    (numeral : Numeral) (signs : op.sign? = some sign) :
    Expr.read stop [⟨.operator op, first⟩, ⟨.number numeral, column⟩] =
      (Expr.ofNumeral column numeral).map fun operand => (.unary first sign operand, []) := by
  rw [Expr.read, Expr.readOn, signs]
  simp only
  rw [Expr.readOn]
  cases Expr.ofNumeral column numeral <;> rfl

/-- The operator that is written as a sign is. -/
private theorem exists_operator (sign : Sign) :
    ∃ op : Operator, op.sign? = some sign ∧ op.symbol = sign.symbol := by
  cases sign with
  | plus => exact ⟨.add, rfl, rfl⟩
  | minus => exact ⟨.sub, rfl, rfl⟩

/-- The source reads a signed numeral as its number, behind the sign. -/
private theorem parse_lexeme [CharacterNames] (formed : signed.numeral.Formed) : Expr.parse
    signed.lexeme = (Expr.ofNumeral signed.column signed.numeral).map signed.tree := by
  obtain ⟨sign, numeral⟩ := signed
  have numeralFormed : numeral.Formed := formed
  cases sign with
  | none =>
    show Expr.parse numeral.lexeme = (Expr.ofNumeral 1 numeral).map fun operand => operand
    rw [Expr.parse, Tokens.ofLine, scanFrom_numeral _ _ numeralFormed]
    simp only [Except.map, Except.mapError, bind, Except.bind, read_numeral]
    cases Expr.ofNumeral 1 numeral <;> rfl
  | some sign =>
    obtain ⟨op, signs, symbol⟩ := exists_operator sign
    have scanned : Tokens.scanFrom (sign.symbol :: numeral.lexeme) 1
        (sign.symbol :: numeral.lexeme) = .ok [⟨.operator op, 1⟩, ⟨.number numeral, 2⟩] := by
      have first : (Symbol.operator op).lexeme = [sign.symbol] := by rw [Symbol.lexeme, symbol]
      rw [← List.singleton_append, ← first, Tokens.scanFrom_lexeme _ _
        (show (Symbol.operator op).Formed from trivial) trivial, first,
        scanFrom_numeral _ _ numeralFormed]
      rfl
    show Expr.parse (sign.symbol :: numeral.lexeme) =
      (Expr.ofNumeral 2 numeral).map fun operand => .unary 1 sign operand
    rw [Expr.parse, Tokens.ofLine, scanned]
    simp only [Except.map, Except.mapError, bind, Except.bind, read_signed _ _ _ _ _ _ signs]
    cases Expr.ofNumeral 2 numeral <;> rfl

private theorem eval_tree (scope : Scope) (column : Nat) (own : Number) :
    (signed.tree (.literal column own.toValue)).eval scope = .ok (signed.apply own).toValue := by
  obtain ⟨sign, numeral⟩ := signed
  cases sign with
  | none => rfl
  | some sign => exact Expr.eval_unary_eq_ok.mpr ⟨own, rfl, rfl⟩

/-- A numeral denotes numbers only. -/
private theorem exists_number [CharacterNames] {numeral : Numeral} {value : Value}
    (denotes : Denotes (.number numeral) value) : ∃ own : Number, value = own.toValue := by
  cases denotes with
  | integer => exact ⟨.int _, rfl⟩
  | float => exact ⟨.float _, rfl⟩

/-- A signed numeral is an expression with the value that it means. -/
theorem exists_parse [CharacterNames] (formed : signed.numeral.Formed)
    (means : signed.Means number) :
    ∃ expr, Expr.parse signed.lexeme = .ok expr ∧ expr.call? = none ∧
      ∀ scope, expr.eval scope = .ok number.toValue := by
  obtain ⟨own, denotes, rfl⟩ := means
  refine ⟨signed.tree (.literal signed.column own.toValue), ?_, ?_, fun scope =>
    eval_tree scope _ own⟩
  · rw [parse_lexeme formed, Expr.ofNumeral_eq_ok_iff.mpr ⟨_, denotes, rfl⟩]
    rfl
  · obtain ⟨sign, numeral⟩ := signed
    cases sign <;> rfl

/-- A signed numeral between white space has the value in the source that it means. -/
theorem evalText_eq_ok_iff [CharacterNames] (formed : signed.numeral.Formed)
    (trimmed : Text.trim text = signed.lexeme) {scope : Scope} {value : Value} :
    Expr.evalText text scope = .ok value ↔
      ∃ number, signed.Means number ∧ value = number.toValue := by
  rw [Expr.evalText, trimmed, bind_eq_ok, parse_lexeme formed]
  simp only [map_eq_ok, mapError_eq_ok, Expr.ofNumeral_eq_ok_iff]
  constructor
  · rintro ⟨_, ⟨_, ⟨literal, denotes, rfl⟩, rfl⟩, valued⟩
    obtain ⟨own, rfl⟩ := exists_number denotes
    rw [eval_tree] at valued
    exact ⟨signed.apply own, ⟨own, denotes, rfl⟩, (Except.ok.inj valued).symm⟩
  · rintro ⟨_, ⟨own, denotes, rfl⟩, rfl⟩
    exact ⟨_, ⟨_, ⟨_, denotes, rfl⟩, rfl⟩, eval_tree scope _ own⟩

end SignedNumeral

/-! ## Integers -/

/-- The digits of a number, alone, are a numeral. -/
theorem Numeral.formed_toDigits (n : Nat) : Numeral.Formed ⟨Nat.toDigits 10 n, none, none⟩ where
  whole := fun _ => Text.isDigit_of_mem_toDigits
  fraction := nofun
  some_digit := .inl Nat.toDigits_ne_nil
  exponent := nofun

namespace SignedNumeral

/-- The digits of an integer, after a minus when it is negative. -/
def ofInt (n : Int) : SignedNumeral :=
  ⟨if n < 0 then some .minus else none, ⟨Nat.toDigits 10 n.natAbs, none, none⟩⟩

theorem lexeme_ofInt (n : Int) : (ofInt n).lexeme = Text.decimal n := by
  rw [lexeme, ofInt, Text.decimal]
  by_cases negative : n < 0 <;> simp [negative, Sign.symbol, Numeral.lexeme]

theorem formed_ofInt (n : Int) : (ofInt n).numeral.Formed := Numeral.formed_toDigits n.natAbs

private theorem isNegative_ofInt (n : Int) : (ofInt n).isNegative = decide (n < 0) := by
  rw [isNegative, ofInt]
  by_cases negative : n < 0 <;> simp [negative]

/-- The digits of an integer mean it in the source, if they are not too many. -/
theorem means_ofInt [CharacterNames] {n : Int}
    (short : (Nat.toDigits 10 n.natAbs).length ≤ Text.digitLimit) : (ofInt n).Means (.int n) := by
  refine ⟨.int n.natAbs, ?_, ?_⟩
  · have denotes : Denotes (.number (ofInt n).numeral)
        (.int (natOfDigits (Nat.toDigits 10 n.natAbs))) := .integer rfl short
    rwa [Text.natOfDigits_toDigits] at denotes
  · rw [apply_int, isNegative_ofInt, Text.signed]
    by_cases negative : n < 0
    · rw [if_pos (by simpa using negative)]
      exact congrArg Number.int (by omega)
    · rw [if_neg (by simpa using negative)]
      exact congrArg Number.int (by omega)

end SignedNumeral

end StepTrace
