import StepTrace.Proofs.Grammar.Descent.Chains

/-!
# Operands, and the rules together

An operand is a literal, a name, or a call, with the signs before it; only the prompt of a call
leads back to the whole grammar. Main statement: wherever it begins, a rule comes to an end
within the marks (`comes`).
-/

namespace StepTrace.Descent

open StepTrace.Expr (ofNumeral ofString readOn nextColumn unexpected)

variable {tokens : Tokens} {place column stop : Nat} {frames : List Frame} {token : Token}
  {rest : List Token}

/-- A sign takes the signed operand behind it. -/
theorem comes_signed [CharacterNames] (inside : place < tokens.marks.length)
    (unsigned : ∃ outcome, Comes tokens .operand place outcome)
    (behind : place + 1 < tokens.marks.length →
      ∃ outcome, Comes tokens .signed (place + 1) outcome) :
    ∃ outcome, Comes tokens .signed place outcome := by
  have looked := look_marks inside
  cases signs : ((tokens.ahead place).head?.map Token.symbol).bind Symbol.sign? with
  | none =>
    obtain ⟨outcome, comes⟩ := unsigned
    refine ⟨outcome, ?_, comes.within, fun _ _ _ => trivial, ?_⟩
    · intro depth deep
      rw [Rule.need_signed] at deep
      obtain ⟨depth, rfl⟩ : ∃ less, depth = less + 1 := ⟨depth - 1, by omega⟩
      rw [descend_unsigned looked signs]
      exact comes.settled depth (by rw [Rule.need_operand]; omega)
    · intro frames _
      refine comes.agrees frames fun token first => ?_
      simpa [Option.mem_def.mp first] using signs
  | some sign =>
    obtain ⟨symbol, column, rest, front, found⟩ := exists_of_bind signs
    obtain ⟨op, rfl, signed⟩ := sign?_eq_some found
    obtain ⟨rfl, further⟩ := ahead_of_cons front
    obtain ⟨outcome, comes⟩ := behind further
    rw [front] at looked signs
    refine ⟨outcome.map (Prod.map (.unary column sign) id), ?_, ?_, fun _ _ _ => trivial, ?_⟩
    · intro depth deep
      rw [Rule.need_signed] at deep
      obtain ⟨depth, rfl⟩ : ∃ less, depth = less + 1 := ⟨depth - 1, by omega⟩
      rw [descend_sign looked signs, comes.settled depth (by rw [Rule.need_signed]; omega)]
      cases outcome <;> rfl
    · intro expr next same
      obtain ⟨⟨operand, last⟩, rfl, pair⟩ := Run.map_eq_ok.mp same
      obtain rfl : last = next := (Prod.mk.inj pair).2
      obtain ⟨past, later⟩ := comes.within operand last rfl
      exact ⟨by omega, later⟩
    · intro frames _
      have begun : readOn tokens.stop frames none (tokens.ahead place) =
          resume tokens (.signed column sign :: frames) outcome := by
        rw [← comes.agrees _ trivial, front, readOn, signed]
      rw [begun]
      cases outcome with
      | error failure => rfl
      | ok result => exact readOn_fill rfl fun _ _ _ _ => rfl

/-- What an operand comes to that is no call with a prompt takes one call to find out. -/
theorem comes_operand_at_once [CharacterNames] {outcome : Except Failure (Expr × Nat)}
    (inside : place < tokens.marks.length)
    (settled : ∀ depth, descend tokens.marks (depth + 1) .operand place = outcome.mapError .refused)
    (within : ∀ expr next, outcome = .ok (expr, next) → place < next ∧ next < tokens.marks.length)
    (agrees : ∀ frames, Rule.Due frames (tokens.ahead place) .operand →
      readOn tokens.stop frames none (tokens.ahead place) = resume tokens frames outcome) :
    Comes tokens .operand place outcome where
  settled := by
    intro depth deep
    rw [Rule.need_operand] at deep
    obtain ⟨depth, rfl⟩ : ∃ less, depth = less + 1 := ⟨depth - 1, by omega⟩
    exact settled depth
  within := within
  ended := fun _ _ _ => trivial
  agrees := agrees

/-- A mark with which no operand begins is refused. -/
theorem comes_refused [CharacterNames] (cause : Cause) (inside : place < tokens.marks.length)
    (settled : ∀ depth, descend tokens.marks (depth + 1) .operand place =
      refuse tokens.marks cause place)
    (agrees : ∀ frames, Rule.Due frames (tokens.ahead place) .operand →
      readOn tokens.stop frames none (tokens.ahead place) = .error (refusal tokens cause place)) :
    Comes tokens .operand place (.error (refusal tokens cause place)) := by
  refine comes_operand_at_once inside (fun depth => ?_) nofun agrees
  rw [settled depth, refuse_marks inside]
  rfl

/-- A literal is read, or refused for what it denotes. -/
theorem comes_literal [CharacterNames] (literal : Except Failure Expr)
    (front : tokens.ahead place = token :: rest)
    (settled : ∀ depth, descend tokens.marks (depth + 1) .operand place =
      (literal.map (·, place + 1)).mapError .refused)
    (agrees : ∀ frames, readOn tokens.stop frames none (token :: rest) =
      literal >>= fun operand => readOn tokens.stop frames (some operand) rest) :
    Comes tokens .operand place (literal.map (·, place + 1)) := by
  obtain ⟨rfl, further⟩ := ahead_of_cons front
  refine comes_operand_at_once (Nat.lt_of_succ_lt further) settled ?_ fun frames _ => ?_
  · intro expr next same
    obtain ⟨_, -, pair⟩ := Run.map_eq_ok.mp same
    obtain ⟨-, rfl⟩ := Prod.mk.inj pair
    exact ⟨Nat.lt_succ_self place, further⟩
  · rw [front, agrees frames]
    cases literal <;> rfl

/-- A call waits for its parenthesis when its prompt is complete and no operator comes next. -/
theorem readOn_closed [CharacterNames] {closing : Nat} {prompt : Expr} :
    readOn stop (.call column :: frames) (some prompt) (⟨.rightParen, closing⟩ :: rest) =
      readOn stop frames (some (.prompt column prompt)) rest := by
  conv => lhs; rw [readOn, Frame.absorb, if_neg (by simp [Frame.takes])]

theorem readOn_unclosed [CharacterNames] {prompt : Expr} (ended : Over false rest)
    (apart : rest.head?.map Token.symbol ≠ some .rightParen) :
    readOn stop (.call column :: frames) (some prompt) rest = .error (unexpected stop rest) := by
  rw [readOn, Frame.absorb, if_neg (by simp [Frame.takes])]
  · rintro op place others rfl
    have sum := ended _ rfl
    cases level : op.isProduct <;> simp [Symbol.joint?, level] at sum
  · rintro closing others rfl
    exact apart rfl

section Calls

variable {text : String} {opening : Nat}

/-- A name that no parenthesis follows is read as far as the next mark. -/
theorem comes_name [CharacterNames] (front : tokens.ahead place = ⟨.name text, column⟩ :: rest)
    (apart : rest.head?.map Token.symbol ≠ some .leftParen) :
    Comes tokens .operand place (.ok (.name column text, place + 1)) := by
  obtain ⟨rfl, further⟩ := ahead_of_cons front
  have inside := Nat.lt_of_succ_lt further
  refine comes_operand_at_once inside (fun depth => ?_) ?_ fun frames _ => ?_
  · rw [descend, look_marks inside, front]
    simp only [bind, Except.bind, List.head?_cons, Option.map_some, nextColumn, look_marks further,
      if_pos apart]
    rfl
  · rintro _ _ ⟨⟩
    exact ⟨Nat.lt_succ_self place, further⟩
  · rw [front]
    refine Expr.readOn_name fun next first => ?_
    simpa [Option.mem_def.mp first] using apart

/-- Only `input` is called. -/
theorem comes_undefined [CharacterNames]
    (front : tokens.ahead place = ⟨.name text, column⟩ :: ⟨.leftParen, opening⟩ :: rest)
    (other : text ≠ "input") :
    Comes tokens .operand place
      (.error (.fault (Fault.atColumn (.undefinedName text) column))) := by
  obtain ⟨following, further⟩ := ahead_of_cons front
  have inside := Nat.lt_of_succ_lt further
  refine comes_operand_at_once inside (fun depth => ?_) nofun fun frames _ => ?_
  · rw [descend, look_marks inside, front]
    simp only [bind, Except.bind, List.head?_cons, Option.map_some, nextColumn, look_marks further,
      following, ne_eq, not_true_eq_false, if_false, if_pos other]
    rfl
  · rw [front]
    exact Expr.readOn_undefined other

/-- A call without a prompt is read with both its parentheses. -/
theorem comes_input [CharacterNames] {closing : Nat}
    (front : tokens.ahead place =
      ⟨.name "input", column⟩ :: ⟨.leftParen, opening⟩ :: ⟨.rightParen, closing⟩ :: rest) :
    Comes tokens .operand place (.ok (.input column, place + 3)) := by
  obtain ⟨following, further⟩ := ahead_of_cons front
  obtain ⟨argument, behind⟩ := ahead_of_cons following
  obtain ⟨rfl, after⟩ := ahead_of_cons argument
  have inside := Nat.lt_of_succ_lt further
  refine comes_operand_at_once inside (fun depth => ?_) ?_ fun frames _ => ?_
  · rw [descend, look_marks inside, front]
    simp only [bind, Except.bind, List.head?_cons, Option.map_some, nextColumn, look_marks further,
      following, ne_eq, not_true_eq_false, if_false, look_marks behind, argument, if_true]
    rfl
  · rintro _ _ ⟨⟩
    exact ⟨by omega, after⟩
  · rw [front, readOn, if_pos rfl]
    rfl

theorem descend_call [CharacterNames] {depth : Nat}
    (front : tokens.ahead place = ⟨.name "input", column⟩ :: ⟨.leftParen, opening⟩ :: rest)
    (apart : rest.head?.map Token.symbol ≠ some .rightParen) :
    descend tokens.marks (depth + 1) .operand place =
      descend tokens.marks depth (.chain false) (place + 2) >>= fun (prompt, closing) =>
        take tokens.marks (some .rightParen) closing >>= fun (_, next) =>
          .ok (.prompt column prompt, next) := by
  obtain ⟨following, further⟩ := ahead_of_cons front
  obtain ⟨rfl, behind⟩ := ahead_of_cons following
  rw [descend, look_marks (Nat.lt_of_succ_lt further), front]
  simp only [bind, Except.bind, List.head?_cons, Option.map_some, nextColumn, look_marks further,
    following, ne_eq, not_true_eq_false, if_false, look_marks behind, if_neg apart]
  rfl

variable {outcome : Except Failure (Expr × Nat)}

/-- The prompt of a call comes next after its opening parenthesis. -/
theorem readOn_prompt [CharacterNames]
    (front : tokens.ahead place = ⟨.name "input", column⟩ :: ⟨.leftParen, opening⟩ :: rest)
    (apart : rest.head?.map Token.symbol ≠ some .rightParen)
    (comes : Comes tokens (.chain false) (place + 2) outcome) :
    readOn tokens.stop frames none (tokens.ahead place) =
      resume tokens (.call column :: frames) outcome := by
  obtain ⟨following, -⟩ := ahead_of_cons front
  obtain ⟨argument, -⟩ := ahead_of_cons following
  have due : (Rule.chain false).Due (.call column :: frames) (tokens.ahead (place + 2)) := by
    rintro _ ⟨⟩
    rfl
  rw [← comes.agrees _ due, argument, front]
  refine Expr.readOn_call fun next first => ?_
  simpa [Option.mem_def.mp first] using apart

theorem descend_prompt [CharacterNames] {depth : Nat}
    (front : tokens.ahead place = ⟨.name "input", column⟩ :: ⟨.leftParen, opening⟩ :: rest)
    (apart : rest.head?.map Token.symbol ≠ some .rightParen)
    (comes : Comes tokens (.chain false) (place + 2) outcome)
    (deep : Rule.operand.need (tokens.marks.length - place) ≤ depth) :
    descend tokens.marks depth .operand place =
      outcome.mapError .refused >>= fun (prompt, closing) =>
        take tokens.marks (some .rightParen) closing >>= fun (_, next) =>
          .ok (.prompt column prompt, next) := by
  obtain ⟨following, further⟩ := ahead_of_cons front
  obtain ⟨-, behind⟩ := ahead_of_cons following
  rw [Rule.need_operand] at deep
  obtain ⟨depth, rfl⟩ : ∃ less, depth = less + 1 := ⟨depth - 1, by omega⟩
  rw [descend_call front apart, comes.settled depth (by rw [Rule.need_sum]; omega)]

theorem Comes.refuses_call [CharacterNames] {failure : Failure}
    (front : tokens.ahead place = ⟨.name "input", column⟩ :: ⟨.leftParen, opening⟩ :: rest)
    (apart : rest.head?.map Token.symbol ≠ some .rightParen)
    (comes : Comes tokens (.chain false) (place + 2) (.error failure)) :
    Comes tokens .operand place (.error failure) where
  settled := fun _ deep => descend_prompt front apart comes deep
  within := nofun
  ended := nofun
  agrees := fun _ _ => readOn_prompt front apart comes

/-- The parenthesis behind its prompt is the last token of a call. -/
theorem Comes.closes_call [CharacterNames] {prompt : Expr} {closing last : Nat}
    {others : List Token}
    (front : tokens.ahead place = ⟨.name "input", column⟩ :: ⟨.leftParen, opening⟩ :: rest)
    (apart : rest.head?.map Token.symbol ≠ some .rightParen)
    (comes : Comes tokens (.chain false) (place + 2) (.ok (prompt, closing)))
    (closed : tokens.ahead closing = ⟨.rightParen, last⟩ :: others) :
    Comes tokens .operand place (.ok (.prompt column prompt, closing + 1)) where
  settled := by
    intro depth deep
    rw [descend_prompt front apart comes deep]
    show take tokens.marks (some .rightParen) closing >>= _ = _
    rw [take_here closed]
    rfl
  within := by
    rintro _ _ ⟨⟩
    have past := (comes.within prompt closing rfl).1
    exact ⟨by omega, (ahead_of_cons closed).2⟩
  ended := fun _ _ _ => trivial
  agrees := by
    intro frames _
    rw [readOn_prompt front apart comes]
    show readOn tokens.stop (.call column :: frames) (some prompt) (tokens.ahead closing) = _
    rw [closed, readOn_closed, ← (ahead_of_cons closed).1]
    rfl

/-- Any other mark behind the prompt is refused. -/
theorem Comes.leaves_call_open [CharacterNames] {prompt : Expr} {closing : Nat}
    (front : tokens.ahead place = ⟨.name "input", column⟩ :: ⟨.leftParen, opening⟩ :: rest)
    (apart : rest.head?.map Token.symbol ≠ some .rightParen)
    (comes : Comes tokens (.chain false) (place + 2) (.ok (prompt, closing)))
    (unclosed : (tokens.ahead closing).head?.map Token.symbol ≠ some .rightParen) :
    Comes tokens .operand place (.error (refusal tokens .unexpectedToken closing)) where
  settled := by
    intro depth deep
    rw [descend_prompt front apart comes deep]
    show take tokens.marks (some .rightParen) closing >>= _ = _
    rw [take_other (comes.within prompt closing rfl).2 unclosed]
    rfl
  within := nofun
  ended := nofun
  agrees := by
    intro frames _
    rw [readOn_prompt front apart comes]
    exact readOn_unclosed (comes.ended prompt closing rfl) unclosed

/-- A call with a prompt comes to an end, if its prompt does. -/
theorem comes_prompt [CharacterNames]
    (front : tokens.ahead place = ⟨.name "input", column⟩ :: ⟨.leftParen, opening⟩ :: rest)
    (apart : rest.head?.map Token.symbol ≠ some .rightParen)
    (comes : Comes tokens (.chain false) (place + 2) outcome) :
    ∃ outcome, Comes tokens .operand place outcome := by
  rcases outcome with failure | ⟨prompt, closing⟩
  · exact ⟨_, comes.refuses_call front apart⟩
  · by_cases closes : (tokens.ahead closing).head?.map Token.symbol = some .rightParen
    · obtain ⟨last, others, closed⟩ := exists_of_next closes
      exact ⟨_, comes.closes_call front apart closed⟩
    · exact ⟨_, comes.leaves_call_open front apart closes⟩

/-- A name is a variable, or the beginning of a call. -/
theorem comes_of_name [CharacterNames] (front : tokens.ahead place = ⟨.name text, column⟩ :: rest)
    (prompt : place + 2 < tokens.marks.length →
      ∃ outcome, Comes tokens (.chain false) (place + 2) outcome) :
    ∃ outcome, Comes tokens .operand place outcome := by
  obtain ⟨rfl, further⟩ := ahead_of_cons front
  by_cases called : (tokens.ahead (place + 1)).head?.map Token.symbol = some .leftParen
  · obtain ⟨opening, others, following⟩ := exists_of_next called
    rw [following] at front
    obtain ⟨rfl, behind⟩ := ahead_of_cons following
    by_cases isInput : text = "input"
    · subst isInput
      by_cases closes : (tokens.ahead (place + 2)).head?.map Token.symbol = some .rightParen
      · obtain ⟨closing, later, argument⟩ := exists_of_next closes
        exact ⟨_, comes_input (argument ▸ front)⟩
      · obtain ⟨outcome, comes⟩ := prompt behind
        exact comes_prompt front closes comes
    · exact ⟨_, comes_undefined front isInput⟩
  · exact ⟨_, comes_name front called⟩

end Calls

/-- An operand comes to an end, if the prompt of a call does. -/
theorem comes_operand [CharacterNames] (inside : place < tokens.marks.length)
    (prompt : place + 2 < tokens.marks.length →
      ∃ outcome, Comes tokens (.chain false) (place + 2) outcome) :
    ∃ outcome, Comes tokens .operand place outcome := by
  have looked := look_marks inside
  cases front : tokens.ahead place with
  | nil =>
    rw [front] at looked
    refine ⟨_, comes_refused .unexpectedToken inside (fun depth => ?_) fun frames _ => ?_⟩
    · rw [descend, looked]
      rfl
    · rw [refusal, front, readOn] <;> simp [unexpected]
  | cons token rest =>
    obtain ⟨symbol, column⟩ := token
    rw [front] at looked
    cases symbol with
    | name text => exact comes_of_name front prompt
    | number numeral =>
      refine ⟨_, comes_literal (ofNumeral column numeral) front (fun depth => ?_) fun frames => ?_⟩
      · rw [descend, looked]
        rfl
      · rw [readOn]
        cases ofNumeral column numeral <;> rfl
    | string mark body =>
      refine ⟨_, comes_literal (ofString column mark body) front (fun depth => ?_) fun frames => ?_⟩
      · rw [descend, looked]
        rfl
      · rw [readOn]
        cases ofString column mark body <;> rfl
    | leftParen =>
      refine ⟨_, comes_refused .groupingParenthesis inside (fun depth => ?_) fun frames due => ?_⟩
      · rw [descend, looked]
        rfl
      · rw [refusal, front, readOn]
        rfl
    | operator op =>
      refine ⟨_, comes_refused .unexpectedToken inside (fun depth => ?_) fun frames due => ?_⟩
      · rw [descend, looked]
        rfl
      · rw [front] at due
        have unsigned : op.sign? = none := due _ rfl
        rw [refusal, front, readOn, unsigned]
        rfl
    | rightParen | colon | equals =>
      refine ⟨_, comes_refused .unexpectedToken inside (fun depth => ?_) fun frames _ => ?_⟩
      · rw [descend, looked]
        rfl
      · rw [refusal, front, readOn] <;> simp [unexpected]

/-- Wherever a rule begins within the marks, it comes to an end. By induction on the marks ahead,
    and on the rule where another one begins at the same mark. -/
theorem comes [CharacterNames] (tokens : Tokens) (rule : Rule) (place : Nat)
    (inside : place < tokens.marks.length) : ∃ outcome, Comes tokens rule place outcome := by
  match rule with
  | .operand => exact comes_operand inside (comes tokens (.chain false) (place + 2))
  | .signed =>
    exact comes_signed inside (comes tokens .operand place inside)
      (comes tokens .signed (place + 1))
  | .chain product =>
    exact comes_chain inside fun next from_place => comes tokens (.below product) next
termination_by rule.need (tokens.marks.length - place)
decreasing_by
  · rw [Rule.need_sum, Rule.need_operand]
    omega
  · rw [Rule.need_signed, Rule.need_operand]
    omega
  · rw [Rule.need_signed, Rule.need_signed]
    omega
  · have fewer := (Rule.below product).need_mono
      (Nat.sub_le_sub_left from_place tokens.marks.length)
    have lower := need_below product (tokens.marks.length - place)
    omega

section
attribute [local instance] CharacterNames.unnamed

/-- The third name is read without a look past the end. -/
example : descend [(some (.name "a"), 1), (some (.operator .add), 3), (some (.name "b"), 5),
    (some (.operator .mul), 7), (some (.name "c"), 9), (none, 10)] 15 (.chain false) 0 =
    .ok (.binary 3 .add (.name 1 "a") (.binary 7 .mul (.name 5 "b") (.name 9 "c")), 5) := rfl

end

end StepTrace.Descent
