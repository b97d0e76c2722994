import StepTrace.Binary64
import StepTrace.Text

/-!
# Values

What a variable may hold. A program makes integers, floating-point numbers and
texts; a scope handed in from outside may hold the other kinds too, which a
program can print, copy and nothing else.
-/

namespace StepTrace

/-- A value of a variable. The entries of a dictionary keep their order. -/
inductive Value where
  | int (n : Int)
  | float (x : Binary64)
  | str (text : Text)
  | bool (b : Bool)
  | null
  | list (items : List Value)
  | dict (entries : List (Text × Value))
  deriving Inhabited, Repr

/-- The kinds of value. -/
inductive ValueKind where
  | int | float | str | bool | null | list | dict
  deriving DecidableEq, Repr

/-- The name of a kind in messages. -/
def ValueKind.word : ValueKind → String
  | int => "int"
  | float => "float"
  | str => "str"
  | bool => "bool"
  | null => "NoneType"
  | list => "list"
  | dict => "dict"

namespace Value

/-- The kind of a value. -/
def kind : Value → ValueKind
  | int _ => .int
  | float _ => .float
  | str _ => .str
  | bool _ => .bool
  | null => .null
  | list _ => .list
  | dict _ => .dict

end Value

/-- The values that arithmetic is done on. -/
inductive Number where
  | int (n : Int)
  | float (x : Binary64)
  deriving DecidableEq, Repr

/-- A number as a value. -/
def Number.toValue : Number → Value
  | int n => .int n
  | float x => .float x

/-- A value as a number, where it is one. -/
def Value.number? : Value → Option Number
  | int n => some (.int n)
  | float x => some (.float x)
  | _ => none

/-- The numbers are exactly the values of the two numeric kinds. -/
theorem Value.number?_eq_some {value : Value} {number : Number} :
    value.number? = some number ↔ value = number.toValue := by
  cases value <;> cases number <;> simp [number?, Number.toValue]

end StepTrace
