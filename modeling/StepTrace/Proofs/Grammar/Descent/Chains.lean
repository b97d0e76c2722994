import StepTrace.Proofs.Grammar.Descent

/-!
# Chains of operands

A product and a sum are a chain of operands, read by a loop with one turn for each operator. A
turn begins an operation and reads its right side; the loop ends at the first mark that is no
operator of the chain. Main statement: a chain comes to an end, if its operands do
(`comes_chain`).
-/

namespace StepTrace.Descent

open StepTrace.Expr (readOn)

variable {tokens : Tokens} {place next column : Nat} {product : Bool} {frames : List Frame}
  {left : Expr} {rest : List Token}

section Chains

variable {op : Operator} {outcome : Except Failure (Expr × Nat)}

/-- An operator of the chain begins an operation, and its operand comes next. -/
theorem readOn_operator [CharacterNames]
    (front : tokens.ahead place = ⟨.operator op, column⟩ :: rest)
    (comes : Comes tokens (.below op.isProduct) (place + 1) outcome)
    (waits : ∀ frame ∈ frames.head?, frame.takes op.isProduct = false) :
    readOn tokens.stop frames (some left) (tokens.ahead place) =
      resume tokens (.operation column op left :: frames) outcome := by
  have due : (Rule.below op.isProduct).Due (.operation column op left :: frames)
      (tokens.ahead (place + 1)) := by
    cases level : op.isProduct with
    | true => trivial
    | false =>
      rintro _ ⟨⟩
      simp [Frame.takes, level]
  rw [← comes.agrees _ due, (ahead_of_cons front).1, front]
  conv => lhs; rw [readOn, Expr.absorb_of_waits waits]

/-- The turn of the loop for an operator of the chain. -/
theorem joined_turn [CharacterNames] {depth turns : Nat}
    (front : tokens.ahead place = ⟨.operator op, column⟩ :: rest)
    (comes : Comes tokens (.below op.isProduct) (place + 1) outcome)
    (deep : (Rule.below op.isProduct).need (tokens.marks.length - place) ≤ depth) :
    joined tokens.marks op.isProduct (descend tokens.marks depth (.below op.isProduct)) (turns + 1)
        left place =
      outcome.mapError .refused >>= fun (right, next) =>
        joined tokens.marks op.isProduct (descend tokens.marks depth (.below op.isProduct)) turns
          (.binary column op left right) next := by
  have looked := look_marks (Nat.lt_of_succ_lt (ahead_of_cons front).2)
  rw [front] at looked
  have shallower := (Rule.below op.isProduct).need_mono
    (Nat.sub_le_sub_left (Nat.le_add_right place 1) tokens.marks.length)
  have joins : (some (Symbol.operator op)).bind (Symbol.joint? op.isProduct) = some op := by
    simp [Symbol.joint?]
  rw [joined_operator looked joins, comes.settled depth (by omega)]
  rfl

/-- No operator of the chain comes next. -/
theorem continues_end [CharacterNames] (inside : place < tokens.marks.length)
    (apart : ((tokens.ahead place).head?.map Token.symbol).bind (Symbol.joint? product) = none)
    (ready : (Rule.below product).Over (tokens.ahead place)) :
    Continues tokens product left place (.ok (left, place)) where
  settled := by
    rintro depth turns - enough
    obtain ⟨turns, rfl⟩ : ∃ fewer, turns = fewer + 1 := ⟨turns - 1, by omega⟩
    exact joined_end (look_marks inside) apart
  within := by
    rintro _ _ ⟨⟩
    exact ⟨Nat.le_refl _, inside⟩
  ended := by
    rintro _ _ ⟨⟩ token first
    have here : token.symbol.joint? product = none := by simpa [Option.mem_def.mp first] using apart
    cases product with
    | true => exact ⟨here, here⟩
    | false => exact ⟨here, (ready token first).1⟩
  agrees := fun _ _ => rfl

theorem Comes.refuses_chain [CharacterNames] {failure : Failure}
    (front : tokens.ahead place = ⟨.operator op, column⟩ :: rest)
    (comes : Comes tokens (.below op.isProduct) (place + 1) (.error failure)) :
    Continues tokens op.isProduct left place (.error failure) where
  settled := by
    intro depth turns deep enough
    have inside := (ahead_of_cons front).2
    obtain ⟨turns, rfl⟩ : ∃ fewer, turns = fewer + 1 := ⟨turns - 1, by omega⟩
    rw [joined_turn front comes deep]
    rfl
  within := nofun
  ended := nofun
  agrees := fun _ waits => readOn_operator front comes waits

/-- An operand that has been read becomes the right side of its operation, and the chain goes on
    behind it. -/
theorem Comes.extends_chain [CharacterNames] {right : Expr}
    (front : tokens.ahead place = ⟨.operator op, column⟩ :: rest)
    (comes : Comes tokens (.below op.isProduct) (place + 1) (.ok (right, next)))
    (onward : Continues tokens op.isProduct (.binary column op left right) next outcome) :
    Continues tokens op.isProduct left place outcome where
  settled := by
    intro depth turns deep enough
    have past := comes.within right next rfl
    obtain ⟨turns, rfl⟩ : ∃ fewer, turns = fewer + 1 := ⟨turns - 1, by omega⟩
    rw [joined_turn front comes deep]
    have shallower := (Rule.below op.isProduct).need_mono
      (Nat.sub_le_sub_left (Nat.le_of_lt (Nat.lt_of_succ_lt past.1)) tokens.marks.length)
    exact onward.settled depth turns (by omega) (by omega)
  within := by
    intro expr last same
    have past := comes.within right next rfl
    have inside := onward.within expr last same
    exact ⟨by omega, inside.2⟩
  ended := onward.ended
  agrees := by
    intro frames waits
    rw [readOn_operator front comes waits, ← onward.agrees frames waits,
      ← readOn_operation (comes.ended right next rfl)]
    rfl

end Chains

/-- The rest of a chain comes to an end, if its operands do. By induction on the marks ahead,
    one turn of the loop for each operator. -/
theorem continues [CharacterNames] {product : Bool} {place : Nat} (left : Expr)
    (inside : place < tokens.marks.length) (ready : (Rule.below product).Over (tokens.ahead place))
    (operands : ∀ next, place < next → next < tokens.marks.length →
      ∃ outcome, Comes tokens (.below product) next outcome) :
    ∃ outcome, Continues tokens product left place outcome := by
  cases joins : ((tokens.ahead place).head?.map Token.symbol).bind (Symbol.joint? product) with
  | none => exact ⟨_, continues_end inside joins ready⟩
  | some op =>
    obtain ⟨symbol, column, rest, front, joint⟩ := exists_of_bind joins
    obtain ⟨rfl, rfl⟩ := joint?_eq_some joint
    obtain ⟨outcome, comes⟩ := operands (place + 1) (Nat.lt_succ_self place) (ahead_of_cons front).2
    cases outcome with
    | error failure => exact ⟨_, comes.refuses_chain front⟩
    | ok result =>
      obtain ⟨right, next⟩ := result
      obtain ⟨after, later⟩ := comes.within right next rfl
      obtain ⟨outcome, onward⟩ := continues (.binary column op left right) later
        (comes.ended right next rfl) fun place past => operands place (by omega)
      exact ⟨outcome, comes.extends_chain front onward⟩
termination_by tokens.marks.length - place

/-- Frames that wait for a chain wait for its operands. -/
theorem due_below (waits : ∀ frame ∈ frames.head?, frame.takes product = false) :
    (Rule.below product).Due frames rest := by
  cases product with
  | true => trivial
  | false => exact fun frame first => Expr.not_takes_product (waits frame first)

theorem need_below (product : Bool) (ahead : Nat) :
    (Rule.below product).need ahead + 1 ≤ (Rule.chain product).need ahead := by
  cases product <;> simp [Rule.need, Rule.below, Rule.rank]

/-- A chain comes to an end, if its operands do. -/
theorem comes_chain [CharacterNames] (inside : place < tokens.marks.length)
    (operands : ∀ next, place ≤ next → next < tokens.marks.length →
      ∃ outcome, Comes tokens (.below product) next outcome) :
    ∃ outcome, Comes tokens (.chain product) place outcome := by
  have shallower := need_below product (tokens.marks.length - place)
  obtain ⟨outcome, comes⟩ := operands place (Nat.le_refl _) inside
  cases outcome with
  | error failure =>
    refine ⟨.error failure, ?_, nofun, nofun, ?_⟩
    · intro depth deep
      obtain ⟨depth, rfl⟩ : ∃ less, depth = less + 1 := ⟨depth - 1, by omega⟩
      rw [descend_chain, comes.settled depth (by omega)]
      rfl
    · exact fun frames waits => comes.agrees frames (due_below waits)
  | ok result =>
    obtain ⟨left, next⟩ := result
    obtain ⟨past, later⟩ := comes.within left next rfl
    obtain ⟨outcome, onward⟩ := continues left later (comes.ended left next rfl)
      fun place behind => operands place (by omega)
    refine ⟨outcome, ?_, ?_, onward.ended, ?_⟩
    · intro depth deep
      obtain ⟨depth, rfl⟩ : ∃ less, depth = less + 1 := ⟨depth - 1, by omega⟩
      rw [descend_chain, comes.settled depth (by omega)]
      have fewer := (Rule.below product).need_mono
        (Nat.sub_le_sub_left (Nat.le_of_lt past) tokens.marks.length)
      have enough : tokens.marks.length - next ≤ depth := by
        unfold Rule.need at deep
        omega
      exact onward.settled depth depth (by omega) enough
    · intro expr last same
      have inside := onward.within expr last same
      exact ⟨by omega, inside.2⟩
    · intro frames waits
      rw [comes.agrees frames (due_below waits), ← onward.agrees frames waits]
      rfl

end StepTrace.Descent
