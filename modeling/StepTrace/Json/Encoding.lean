import StepTrace.Text.Utf8
import StepTrace.Text.WideUnits

/-!
# The encoding of a JSON text

A JSON text that comes as bytes begins with a character of ASCII, so the places of
zeros among its first bytes tell how wide its units are and which byte of a unit
comes first. Without zeros there it is UTF-8, and so is a single byte or three.
-/

namespace StepTrace.Json

/-- How a text is encoded. -/
inductive Encoding where
  | utf8
  | utf16 (order : Text.ByteOrder)
  | utf32 (order : Text.ByteOrder)
  deriving DecidableEq, Repr

/-- The encoding that the first bytes of a text tell. -/
def Encoding.ofBytes : List UInt8 → Encoding
  | first :: second :: third :: fourth :: _ =>
    if first = 0 then (if second = 0 then utf32 .big else utf16 .big)
    else if second = 0 then (if third = 0 ∧ fourth = 0 then utf32 .little else utf16 .little)
    else utf8
  | [first, second] =>
    if first = 0 then utf16 .big else if second = 0 then utf16 .little else utf8
  | _ => utf8

/-- The characters of bytes in an encoding, if they are encoded so. -/
def Encoding.decode? : Encoding → List UInt8 → Option (List Char)
  | utf8, bytes => (Text.utf8 bytes).toOption
  | utf16 order, bytes => Text.utf16? order bytes
  | utf32 order, bytes => Text.utf32? order bytes

/-- The characters of a JSON text that comes as bytes. -/
def decode? (bytes : List UInt8) : Option (List Char) := (Encoding.ofBytes bytes).decode? bytes

end StepTrace.Json
