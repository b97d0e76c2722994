/-!
# The front of a text

What follows a text that stands at the front of another one.
-/

namespace StepTrace.Text

/-- What follows the first text at the front of the second, if it stands there. -/
def afterFront? : List Char → List Char → Option (List Char)
  | [], text => some text
  | _ :: _, [] => none
  | c :: front, d :: text => if c = d then afterFront? front text else none

/-- The front and what follows it make up the text. -/
theorem afterFront?_eq_some {front text rest : List Char} :
    afterFront? front text = some rest ↔ text = front ++ rest := by
  fun_induction afterFront? front text with
  | case1 => simp [eq_comm]
  | case2 => simp
  | case3 front d text ih => simp [ih]
  | case4 c front d text different => simp [different, eq_comm]

end StepTrace.Text
