/-!
# UTF-8

The characters of a sequence of bytes. A sequence that is no UTF-8 is refused at
its first bytes that begin no character or do not go on with one, which are as
many as could have begun a character.
-/

namespace StepTrace.Text

/-- Why bytes are no UTF-8. -/
inductive Utf8Reason where
  | start
  | continuation
  | ending
  deriving DecidableEq, Repr

/-- The wording of a reason. -/
def Utf8Reason.message : Utf8Reason → String
  | start => "invalid start byte"
  | continuation => "invalid continuation byte"
  | ending => "unexpected end of data"

/-- The bytes that are refused. -/
structure Utf8Error where
  /-- The number of bytes before them. -/
  offset : Nat
  byte : UInt8
  count : Nat
  reason : Utf8Reason
  deriving DecidableEq, Repr

/-- What a first byte says of its character: how many bytes follow, the range of
    the next one, and the highest bits of the code. -/
def utf8Lead (byte : Nat) : Option (Nat × (Nat × Nat) × Nat) :=
  if byte < 0x80 then some (0, (0, 0), byte)
  else if byte < 0xC2 then none
  else if byte < 0xE0 then some (1, (0x80, 0xBF), byte - 0xC0)
  else if byte < 0xF0 then
    some (2, (if byte = 0xE0 then 0xA0 else 0x80, if byte = 0xED then 0x9F else 0xBF), byte - 0xE0)
  else if byte < 0xF5 then
    some (3, (if byte = 0xF0 then 0x90 else 0x80, if byte = 0xF4 then 0x8F else 0xBF), byte - 0xF0)
  else none

/-- Reads the bytes that follow a first byte: so many, the next one in a range,
    onto the bits so far. A refusal counts the bytes that were good. -/
def utf8Follow (range : Nat × Nat) (code good : Nat) :
    Nat → List UInt8 → Except (Nat × Utf8Reason) (Nat × List UInt8)
  | 0, bytes => .ok (code, bytes)
  | _ + 1, [] => .error (good, .ending)
  | more + 1, byte :: rest =>
    if range.1 ≤ byte.toNat ∧ byte.toNat ≤ range.2 then
      utf8Follow (0x80, 0xBF) (64 * code + (byte.toNat - 0x80)) (good + 1) more rest
    else .error (good, .continuation)

/-- What follows a character is no longer than what follows its first byte. -/
theorem utf8Follow_length {range : Nat × Nat} {code good more : Nat} {bytes rest : List UInt8}
    {found : Nat} (read : utf8Follow range code good more bytes = .ok (found, rest)) :
    rest.length ≤ bytes.length := by
  fun_induction utf8Follow range code good more bytes with
  | case1 =>
    obtain ⟨rfl, rfl⟩ := by simpa using read
    exact Nat.le_refl _
  | case2 => simp at read
  | case3 range code good more byte bytes _ ih =>
    have := ih read
    simp only [List.length_cons]
    omega
  | case4 => simp at read

/-- The characters of bytes, after those that have been read already, the last
    one first, from so many bytes. -/
def utf8After (read : List Char) (offset : Nat) (bytes : List UInt8) :
    Except Utf8Error (List Char) :=
  match bytes with
  | [] => .ok read.reverse
  | byte :: rest =>
    match utf8Lead byte.toNat with
    | none => .error ⟨offset, byte, 1, .start⟩
    | some (more, range, code) =>
      match _follow : utf8Follow range code 1 more rest with
      | .ok (found, after) => utf8After (Char.ofNat found :: read) (offset + more + 1) after
      | .error (count, reason) => .error ⟨offset, byte, count, reason⟩
termination_by bytes.length
decreasing_by
  have := utf8Follow_length _follow
  simp only [List.length_cons]
  omega

/-- The characters of a sequence of bytes. -/
def utf8 (bytes : List UInt8) : Except Utf8Error (List Char) := utf8After [] 0 bytes

end StepTrace.Text
