import Mathlib.Data.List.InsertIdx
import StepTrace.Proofs.Run.Correspondence
import StepTrace.Proofs.Source
import StepTrace.Proofs.Statement.Shapes

/-!
# Variables that a program does not mention

A program reads and sets only the variables that its lines name. A variable of another name has
no part in a run, and the run has none in it: with the variable anywhere among the others at the
start, every step is the same and shows the variable in its place (`run_foreign`).
-/

namespace StepTrace

open Machine (entered)
open Run (argument effect effect_assignment effect_loop effect_print effect_question)

variable {name found target : String} {value new : Value} {place : Nat} {scope other : Scope}

/-! ## Scopes -/

namespace Scope

theorem get?_insertIdx (apart : found ≠ name) :
    Scope.get? (scope.insertIdx place (name, value)) found = scope.get? found := by
  induction scope generalizing place with
  | nil =>
    cases place with
    | zero => simp [get?, Ne.symm apart]
    | succ place => rfl
  | cons setting rest ih =>
    cases place with
    | zero => simp [get?, Ne.symm apart]
    | succ place => simp [get?, ih]

/-- Another variable is set in its place, or as the last one. -/
theorem set_insertIdx (apart : target ≠ name) (within : place ≤ scope.length) :
    Scope.set (scope.insertIdx place (name, value)) target new =
      (scope.set target new).insertIdx place (name, value) := by
  induction scope generalizing place with
  | nil =>
    obtain rfl : place = 0 := Nat.le_zero.mp within
    simp [set, Ne.symm apart]
  | cons setting rest ih =>
    cases place with
    | zero => simp [set, Ne.symm apart]
    | succ place =>
      by_cases here : setting.1 = target
      · simp [set, here]
      · simp [set, here, ih (Nat.le_of_succ_le_succ within)]

theorem length_le_set : scope.length ≤ (scope.set target new).length := by
  induction scope with
  | nil => exact Nat.zero_le _
  | cons setting rest ih =>
    rw [set]
    split
    · exact Nat.le_refl _
    · exact Nat.succ_le_succ ih

end Scope

/-! ## Expressions -/

namespace Expr

/-- A name occurs in an expression as that of a variable. -/
def Mentions (found : String) : Expr → Prop
  | .literal _ _ | .input _ => False
  | .name _ text => text = found
  | .unary _ _ operand => operand.Mentions found
  | .binary _ _ left right => left.Mentions found ∨ right.Mentions found
  | .prompt _ text => text.Mentions found

/-- The value of an expression depends on the variables that it mentions. -/
theorem eval_congr {expr : Expr}
    (agree : ∀ found, expr.Mentions found → other.get? found = scope.get? found) :
    expr.eval other = expr.eval scope := by
  induction expr with
  | literal | input => rfl
  | name column text => rw [eval, eval, agree text rfl]
  | unary column sign operand ih => rw [eval, eval, ih agree]
  | binary column op left right ihLeft ihRight =>
    rw [eval, eval, ihLeft fun found inside => agree found (.inl inside),
      ihRight fun found inside => agree found (.inr inside)]
  | prompt column text ih => exact ih agree

theorem eval_insertIdx {expr : Expr} (foreign : ¬ expr.Mentions name) :
    expr.eval (scope.insertIdx place (name, value)) = expr.eval scope := by
  refine eval_congr fun found inside => Scope.get?_insertIdx ?_
  rintro rfl
  exact foreign inside

/-- The names of an expression are among the tokens that spell it. -/
theorem Spells.token_of_mentions [CharacterNames] {expr : Expr} {tokens : List Token}
    (spelled : Spells expr tokens)
    (mentions : expr.Mentions name) : ∃ token ∈ tokens, token.symbol = .name name := by
  induction spelled with
  | literal | input => exact mentions.elim
  | @name column text =>
    obtain rfl := mentions
    exact ⟨⟨.name text, column⟩, List.mem_singleton_self _, rfl⟩
  | unary _ _ ih =>
    obtain ⟨token, member, named⟩ := ih mentions
    exact ⟨token, List.mem_cons_of_mem _ member, named⟩
  | binary _ _ ihLeft ihRight =>
    rcases mentions with left | right
    · obtain ⟨token, member, named⟩ := ihLeft left
      exact ⟨token, List.mem_append_left _ member, named⟩
    · obtain ⟨token, member, named⟩ := ihRight right
      exact ⟨token, List.mem_append_right _ (List.mem_cons_of_mem _ member), named⟩
  | prompt _ ih =>
    obtain ⟨token, member, named⟩ := ih mentions
    exact ⟨token, by simp [member], named⟩

end Expr

/-! ## Statements -/

namespace Statement

/-- A statement reads or sets a variable of this name. -/
def Mentions (found : String) : Statement → Prop
  | question target prompt => target = found ∨ ∃ text ∈ prompt, text.Mentions found
  | loop var count _ => var = found ∨ count.Mentions found
  | assignment target expr => target = found ∨ expr.Mentions found
  | print expr => ∃ value ∈ expr, value.Mentions found

/-- The names of a statement are among the tokens of its line. -/
theorem Shaped.token_of_mentions [CharacterNames] {line : List Char} {tokens : List Token}
    {statement : Statement}
    (shaped : Shaped line tokens statement) (mentions : statement.Mentions name) :
    ∃ token ∈ tokens, token.symbol = .name name := by
  cases shaped with
  | @question first second target own expr prompt phrase call =>
    rcases mentions with rfl | ⟨text, rfl, inside⟩
    · exact ⟨⟨.name target, first⟩, List.mem_cons_self, rfl⟩
    · have insideCall : expr.Mentions name := by
        cases expr with
        | prompt =>
          obtain rfl := Option.some.inj (Option.some.inj call)
          exact inside
        | literal | name | unary | binary | input => cases call
      obtain ⟨token, member, named⟩ := phrase.spelled.token_of_mentions insideCall
      exact ⟨token, by simp [member], named⟩
  | @assignment first second target own expr phrase notCall =>
    rcases mentions with rfl | inside
    · exact ⟨⟨.name target, first⟩, List.mem_cons_self, rfl⟩
    · obtain ⟨token, member, named⟩ := phrase.spelled.token_of_mentions inside
      exact ⟨token, by simp [member], named⟩
  | @loop first second third fourth opening closing last var own count phrase =>
    rcases mentions with rfl | inside
    · exact ⟨⟨.name var, second⟩, by simp, rfl⟩
    · obtain ⟨token, member, named⟩ := phrase.spelled.token_of_mentions inside
      exact ⟨token, by simp [member], named⟩
  | blank =>
    obtain ⟨_, none, -⟩ := mentions
    cases none
  | print phrase =>
    obtain ⟨_, same, inside⟩ := mentions
    obtain rfl := Option.some.inj same
    obtain ⟨token, member, named⟩ := phrase.spelled.token_of_mentions inside
    exact ⟨token, by simp [member], named⟩

end Statement

theorem argument_insertIdx {expr : Option Expr} (foreign : ∀ inner ∈ expr, ¬ inner.Mentions name) :
    argument (scope.insertIdx place (name, value)) expr = argument scope expr := by
  cases expr with
  | none => rfl
  | some inner => exact Expr.eval_insertIdx (foreign inner rfl)

private theorem map_bind {ε α β γ : Type} (first : Except ε α) (next : α → Except ε β) (f : β → γ) :
    (first >>= next).map f = first >>= fun value => (next value).map f := by
  cases first <;> rfl

/-- A statement does the same beside a variable that it does not mention. -/
theorem effect_insertIdx {limits : Limits} {statement : Statement} (within : place ≤ scope.length)
    (foreign : ¬ statement.Mentions name) :
    effect limits (scope.insertIdx place (name, value)) statement =
      (effect limits scope statement).map fun (event, after) =>
        (event, after.insertIdx place (name, value)) := by
  cases statement with
  | question target prompt =>
    rw [effect, effect, argument_insertIdx fun text member inside => foreign (.inr ⟨text, member, inside⟩)]
    simp only [map_bind]
    rfl
  | assignment target expr =>
    have apart : target ≠ name := fun same => foreign (.inl same)
    rw [effect, effect, Expr.eval_insertIdx fun inside => foreign (.inr inside)]
    simp only [map_bind, Scope.set_insertIdx apart within]
    rfl
  | print expr =>
    rw [effect, effect, argument_insertIdx fun inner member inside => foreign ⟨inner, member, inside⟩]
    simp only [map_bind]
    rfl
  | loop var count text =>
    rw [effect, effect, Expr.eval_insertIdx fun inside => foreign (.inr inside)]
    simp only [map_bind]
    rfl

/-! ## Programs -/

/-- Runs of which one has another variable at a place among the others. -/
private def beside (place : Nat) (name : String) (value : Value) : Correspondence where
  number := id
  width := id
  scopes := fun scope other => place ≤ scope.length ∧ other = scope.insertIdx place (name, value)
  faults := fun fault other => other = fault
  widens := strictMono_id
  faults_self := fun _ => rfl

private theorem scopes_set (apart : target ≠ name)
    (scopes : (beside place name value).scopes scope other) :
    (beside place name value).scopes (scope.set target new) (other.set target new) := by
  obtain ⟨within, rfl⟩ := scopes
  exact ⟨Nat.le_trans within Scope.length_le_set, Scope.set_insertIdx apart within⟩

private theorem length_le_of_effect {limits : Limits} {statement : Statement} {event : Event}
    {after : Scope} (does : effect limits scope statement = .ok (event, after)) :
    scope.length ≤ after.length := by
  cases statement with
  | question =>
    obtain ⟨-, -, -, -, -, rfl⟩ := effect_question.mp does
    exact Nat.le_refl _
  | assignment =>
    obtain ⟨-, -, -, -, -, rfl⟩ := effect_assignment.mp does
    exact Scope.length_le_set
  | print =>
    obtain ⟨-, -, -, -, -, rfl⟩ := effect_print.mp does
    exact Nat.le_refl _
  | loop =>
    obtain ⟨-, -, -, -, -, rfl⟩ := effect_loop.mp does
    exact Nat.le_refl _

private theorem respects_of_foreign (limits : Limits) {statement : Statement}
    (foreign : ¬ statement.Mentions name) :
    (beside place name value).Respects limits statement where
  effects := by
    rintro scope other ⟨within, rfl⟩
    rw [effect_insertIdx within foreign]
    cases does : effect limits scope statement with
    | error failure => exact .fails (.self failure)
    | ok result => exact .does ⟨Nat.le_trans within (length_le_of_effect does), rfl⟩
  counts := by
    rintro var count text rfl scope other new scopes
    exact scopes_set (fun same => foreign (.inl same)) scopes

/-- No name among the tokens of a line is the given one. -/
def Line.Silent (name : String) (line : Line) : Prop :=
  ∀ tokens, Tokens.ofLine line.content = .ok tokens →
    ∀ token ∈ tokens.list, token.symbol ≠ .name name

instance (name : String) (line : Line) : Decidable (line.Silent name) :=
  match scanned : Tokens.ofLine line.content with
  | .ok tokens =>
    decidable_of_iff (∀ token ∈ tokens.list, token.symbol ≠ .name name)
      ⟨fun silent _ again => Except.ok.inj (scanned.symm.trans again) ▸ silent,
        fun silent => silent tokens scanned⟩
  | .error _ => isTrue fun _ again => nomatch scanned.symm.trans again

private theorem lines_of_silent [CharacterNames] (limits : Limits) {line : Line}
    (silent : line.Silent name) : (beside place name value).Lines limits line line where
  number := rfl
  blank := rfl
  inert := rfl
  indent := fun _ => rfl
  reading := by
    intro _
    cases reads : Statement.ofLine line.content with
    | error failure => exact .fails (.self failure)
    | ok statement =>
      refine .reads (respects_of_foreign limits fun mentions => ?_)
      obtain ⟨tokens, scanned, shaped⟩ := Statement.ofLine_eq_ok_iff.mp reads
      obtain ⟨token, member, named⟩ := shaped.token_of_mentions mentions
      exact silent tokens scanned token member named

private theorem steps_beside {step other : Step}
    (steps : (beside place name value).Steps step other) :
    other = { step with scope := step.scope.insertIdx place (name, value) } := by
  have event := steps.event.eq fun _ _ => id
  obtain ⟨number, _, scope⟩ := other
  obtain ⟨rfl, -, -, rfl⟩ := steps
  subst event
  rfl

variable {limits : Limits} {code : List Char} {start : Int} {answer : Option Answer}

/-- A variable that no line of a program names and that is not answered has no part in a run,
    and each step shows it in its place. -/
theorem run_foreign [CharacterNames] (within : place ≤ scope.length)
    (silent : ∀ line ∈ Source.lines code, line.Silent name)
    (unanswered : ∀ given ∈ answer, given.target ≠ name) :
    run limits code (scope.insertIdx place (name, value)) start answer =
        (run limits code scope start answer).map
          (Response.mapSteps fun step =>
            { step with scope := step.scope.insertIdx place (name, value) }) ∧
      ∀ response, run limits code scope start answer = .ok response →
        ∀ step ∈ response.trace, place ≤ step.scope.length := by
  have all : List.Forall₂ ((beside place name value).Lines limits)
      ((Source.lines code).drop start.toNat) ((Source.lines code).drop start.toNat) :=
    List.forall₂_same.mpr fun line member =>
      lines_of_silent limits (silent line (List.mem_of_mem_drop member))
  have enters : (beside place name value).scopes (entered scope answer)
      (entered (scope.insertIdx place (name, value)) answer) := by
    cases answer with
    | none => exact ⟨within, rfl⟩
    | some given => exact scopes_set (unanswered given rfl) ⟨within, rfl⟩
  have results := @Correspondence.run_corresponds (beside place name value) limits _ code code scope
    (scope.insertIdx place (name, value)) start answer _ all rfl enters
  refine ⟨results.eq_map (fun _ _ => id) fun _ _ => steps_beside, fun response returns step member => ?_⟩
  rw [returns] at results
  generalize run limits code (scope.insertIdx place (name, value)) start answer = twin at results
  cases results with
  | @returned _ other steps _ =>
    have inside : List.Forall₂ (fun step _ => place ≤ step.scope.length ∧ True) response.trace
        other.trace := steps.imp fun _ _ related => ⟨related.scope.1, trivial⟩
    exact ((List.forall₂_and_left _ _).mp inside).1 step member

section
attribute [local instance] CharacterNames.unnamed

/-- A variable between two others, beside a loop over one of them. -/
theorem run_foreign_between :
    run ⟨20, 5⟩ "for i in range(n):\n  t = t + i # z".toList [("n", .int 2), ("z", .null), ("t", .int 5)]
        0 (some ⟨"n", "1"⟩) =
      .ok ⟨[⟨1, .looping 1, [("n", .int 1), ("z", .null), ("t", .int 5)]⟩,
        ⟨1, .iteration "i" 0, [("n", .int 1), ("z", .null), ("t", .int 5), ("i", .int 0)]⟩,
        ⟨2, .assigned "t" "5", [("n", .int 1), ("z", .null), ("t", .int 5), ("i", .int 0)]⟩], none⟩ := by
  have without : run ⟨20, 5⟩ "for i in range(n):\n  t = t + i # z".toList
      [("n", .int 2), ("t", .int 5)] 0 (some ⟨"n", "1"⟩) =
        .ok ⟨[⟨1, .looping 1, [("n", .int 1), ("t", .int 5)]⟩,
          ⟨1, .iteration "i" 0, [("n", .int 1), ("t", .int 5), ("i", .int 0)]⟩,
          ⟨2, .assigned "t" "5", [("n", .int 1), ("t", .int 5), ("i", .int 0)]⟩], none⟩ := by
    decide +kernel
  have silent : ∀ line ∈ Source.lines "for i in range(n):\n  t = t + i # z".toList,
      line.Silent "z" := by decide +kernel
  have foreign := @run_foreign "z" .null 1 [("n", .int 2), ("t", .int 5)] ⟨20, 5⟩
    "for i in range(n):\n  t = t + i # z".toList 0 (some ⟨"n", "1"⟩) _ (by decide) silent
    (by rintro given ⟨⟩; decide)
  rw [without] at foreign
  exact foreign.1

end

end StepTrace
