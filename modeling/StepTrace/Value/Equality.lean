import StepTrace.Value

/-!
# Equality of values

Whether two values are the same can be computed, so what a run returns can be
compared with what it should return.
-/

namespace StepTrace

namespace Value

mutual

/-- Compares two values. -/
def same : Value → Value → Bool
  | int m, int n => m == n
  | float x, float y => x == y
  | str s, str t => s == t
  | bool a, bool b => a == b
  | null, null => true
  | list xs, list ys => sameItems xs ys
  | dict xs, dict ys => sameEntries xs ys
  | _, _ => false

/-- Compares two lists of values. -/
def sameItems : List Value → List Value → Bool
  | [], [] => true
  | x :: xs, y :: ys => same x y && sameItems xs ys
  | _, _ => false

/-- Compares the entries of two dictionaries. -/
def sameEntries : List (Text × Value) → List (Text × Value) → Bool
  | [], [] => true
  | (k, x) :: xs, (l, y) :: ys => k == l && same x y && sameEntries xs ys
  | _, _ => false

end

mutual

theorem same_iff : ∀ x y : Value, x.same y = true ↔ x = y
  | list xs, y => by cases y <;> simp [same, sameItems_iff xs]
  | dict xs, y => by cases y <;> simp [same, sameEntries_iff xs]
  | int _, y | float _, y | str _, y | bool _, y | null, y => by cases y <;> simp [same]

theorem sameItems_iff : ∀ xs ys : List Value, sameItems xs ys = true ↔ xs = ys
  | [], ys => by cases ys <;> simp [sameItems]
  | x :: xs, [] => by simp [sameItems]
  | x :: xs, y :: ys => by simp [sameItems, same_iff x, sameItems_iff xs]

theorem sameEntries_iff : ∀ xs ys : List (Text × Value), sameEntries xs ys = true ↔ xs = ys
  | [], ys => by cases ys <;> simp [sameEntries]
  | x :: xs, [] => by simp [sameEntries]
  | (k, x) :: xs, (l, y) :: ys => by simp [sameEntries, same_iff x, sameEntries_iff xs]

end

end Value

instance : DecidableEq Value := fun x y => decidable_of_iff _ (Value.same_iff x y)

instance instDecidableEqExcept {ε α : Type} [DecidableEq ε] [DecidableEq α] :
    DecidableEq (Except ε α)
  | .ok a, .ok b => decidable_of_iff (a = b) (by simp)
  | .error e, .error f => decidable_of_iff (e = f) (by simp)
  | .ok _, .error _ => .isFalse (by simp)
  | .error _, .ok _ => .isFalse (by simp)

end StepTrace
