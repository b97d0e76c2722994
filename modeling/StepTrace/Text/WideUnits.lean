import StepTrace.Text.CodePoint

/-!
# Texts in wide units

The characters of bytes that form units of two or of four bytes. Units of two bytes
may have to be taken in pairs. Bytes that are left over, and codes beyond the last
one, form no text.
-/

namespace StepTrace.Text

/-- Which byte of a unit comes first. -/
inductive ByteOrder where
  | big
  | little
  deriving DecidableEq, Repr

/-- The number that the bytes of a unit are. -/
def ByteOrder.number : ByteOrder → List UInt8 → Nat
  | big, bytes => bytes.foldl (fun n byte => 256 * n + byte.toNat) 0
  | little, bytes => bytes.foldr (fun byte n => 256 * n + byte.toNat) 0

/-- The units of two bytes each. -/
def units16? (order : ByteOrder) : List UInt8 → Option (List Nat)
  | [] => some []
  | a :: b :: rest => (units16? order rest).map (order.number [a, b] :: ·)
  | [_] => none

/-- The units of four bytes each. -/
def units32? (order : ByteOrder) : List UInt8 → Option (List Nat)
  | [] => some []
  | a :: b :: c :: d :: rest => (units32? order rest).map (order.number [a, b, c, d] :: ·)
  | _ => none

/-- The codes that units of two bytes stand for, those of a pair together. -/
def joinPairs : List Nat → List Nat
  | [] => []
  | [unit] => [unit]
  | high :: low :: rest =>
    if isHighUnit high && isLowUnit low then pairCode high low :: joinPairs rest
    else high :: joinPairs (low :: rest)

/-- The characters of bytes in units of two. -/
def utf16? (order : ByteOrder) (bytes : List UInt8) : Option (List Char) := do
  (joinPairs (← units16? order bytes)).mapM charOfCode?

/-- The characters of bytes in units of four. -/
def utf32? (order : ByteOrder) (bytes : List UInt8) : Option (List Char) := do
  (← units32? order bytes).mapM charOfCode?

end StepTrace.Text
