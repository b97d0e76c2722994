import StepTrace.Value

/-!
# Scopes

The variables of a program in the order in which they were first set. Setting a
variable again changes its value and keeps its place.
-/

namespace StepTrace

/-- Names with their values, in order of their first setting. -/
abbrev Scope := List (Text × Value)

namespace Scope

/-- The value of a variable. -/
def get? : Scope → Text → Option Value
  | [], _ => none
  | (other, value) :: rest, name => if other = name then some value else get? rest name

/-- Gives a variable a value, in its place or as the last one. -/
def set : Scope → Text → Value → Scope
  | [], name, value => [(name, value)]
  | (other, held) :: rest, name, value =>
    if other = name then (name, value) :: rest else (other, held) :: set rest name value

/-- The scope of a list of settings. -/
def ofList (settings : List (Text × Value)) : Scope :=
  settings.foldl (fun scope setting => scope.set setting.1 setting.2) []

/-- A variable has the value that it was set to, and the others keep theirs. -/
theorem get?_set (scope : Scope) (name other : Text) (value : Value) :
    (scope.set name value).get? other = if other = name then some value else scope.get? other := by
  induction scope with
  | nil => simp [set, get?, eq_comm]
  | cons setting rest ih =>
    obtain ⟨first, held⟩ := setting
    by_cases here : first = name
    · subst here
      by_cases same : other = first <;> simp [set, get?, same, eq_comm]
    · by_cases found : first = other
      · subst found
        simp [set, get?, here]
      · simp [set, get?, here, found, ih]

/-- The names after a setting: a new name comes last. -/
theorem map_fst_set (scope : Scope) (name : Text) (value : Value) :
    (scope.set name value).map Prod.fst =
      if name ∈ scope.map Prod.fst then scope.map Prod.fst else scope.map Prod.fst ++ [name] := by
  induction scope with
  | nil => simp [set]
  | cons setting rest ih =>
    obtain ⟨first, held⟩ := setting
    by_cases here : first = name
    · simp [set, here]
    · by_cases later : name ∈ rest.map Prod.fst <;>
        simp_all [set, Ne.symm here]

/-- Setting a variable changes nothing exactly where it has the value already. -/
theorem set_eq_self_iff {scope : Scope} {name : Text} {value : Value} :
    scope.set name value = scope ↔ scope.get? name = some value := by
  induction scope with
  | nil => simp [set, get?]
  | cons setting rest ih =>
    obtain ⟨first, held⟩ := setting
    by_cases here : first = name
    · subst here
      simp [set, get?, eq_comm]
    · simp [set, get?, here, ih]

end Scope

end StepTrace
