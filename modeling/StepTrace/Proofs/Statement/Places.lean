import StepTrace.Proofs.Statement.Shapes

/-!
# Lines that go on with a comment

What follows the tokens of a line has no part in what the line reads as. The readers look at the
tokens alone, except for the places that their faults name; so a line that is followed by a
comment reads as the same statement, or is refused for the same cause
(`ofLine_commented`).
-/

namespace StepTrace

open Run (map_eq_ok)

/-- Two results that are both values, related in some way, or are both refusals for the same
    cause, or the same abort. -/
inductive Agrees {α : Type} (related : α → α → Prop) : Except Failure α → Except Failure α → Prop
  | values {value other : α} (values : related value other) : Agrees related (.ok value) (.ok other)
  | faults {fault other : Fault} (cause : other.cause = fault.cause) :
    Agrees related (.error (.fault fault)) (.error (.fault other))
  | aborts (abort : Abort) : Agrees related (.error (.abort abort)) (.error (.abort abort))

namespace Agrees

variable {α β : Type} {related : α → α → Prop} {result other : Except Failure α}

theorem refl (self : ∀ value, related value value) (result : Except Failure α) :
    Agrees related result result := by
  rcases result with (fault | abort) | value
  · exact .faults rfl
  · exact .aborts abort
  · exact .values (self value)

theorem bind {also : β → β → Prop} {next nextToo : α → Except Failure β}
    (first : Agrees related result other)
    (second : ∀ value again, related value again → Agrees also (next value) (nextToo again)) :
    Agrees also (result >>= next) (other >>= nextToo) := by
  cases first with
  | values values => exact second _ _ values
  | faults cause => exact .faults cause
  | aborts abort => exact .aborts abort

end Agrees

variable {stop after : Nat} {tokens : List Token} {line other : List Char} {statement : Statement}

namespace Expr

/-- The reader of expressions looks at the end of the line for the places of its faults only. By
    induction on its recursion. -/
theorem agrees_readOn [CharacterNames] (stop after : Nat) (frames : List Frame)
    (complete : Option Expr) (tokens : List Token) :
    Agrees Eq (readOn stop frames complete tokens) (readOn after frames complete tokens) := by
  fun_induction readOn stop frames complete tokens with
  | case1 _ _ _ _ _ decides ih | case3 _ _ _ _ _ decides ih | case5 _ _ _ _ _ _ decides ih
  | case14 _ _ _ _ _ _ _ decides ih | case15 _ _ _ _ _ _ _ decides ih =>
    simp only [readOn, decides]
    exact ih
  | case7 _ _ _ _ _ ih =>
    rw [readOn, if_pos rfl]
    exact ih
  | case9 _ _ _ _ notClosed ih =>
    rw [readOn, if_pos rfl]
    · exact ih
    · exact notClosed
  | case11 _ _ _ _ notCall notOpen ih =>
    rw [readOn]
    · exact ih
    · exact notCall
    · exact notOpen
  | case2 _ _ _ _ decides =>
    simp only [readOn, decides]
    exact .faults rfl
  | case4 _ _ _ _ _ decides | case6 _ _ _ _ _ _ decides =>
    simp only [readOn, decides]
    exact .refl (fun _ => rfl) _
  | case8 _ _ _ _ _ _ other =>
    rw [readOn, if_neg other]
    exact .faults rfl
  | case10 _ _ _ _ _ notClosed other =>
    rw [readOn, if_neg other]
    · exact .faults rfl
    · exact notClosed
  | case12 =>
    rw [readOn]
    exact .faults rfl
  | case13 =>
    rw [readOn]
    · exact .faults rfl
    all_goals assumption
  | case16 _ _ _ _ _ _ open' absorbed =>
    rw [readOn, absorbed]
    split
    · next same => exact (open' _ _ (Prod.mk.inj same).1).elim
    · next same => exact .values (by rw [(Prod.mk.inj same).2])
  | case17 _ _ _ _ absorbed noOperator notClosed =>
    rw [readOn, absorbed]
    · exact .values rfl
    · exact noOperator
    · exact notClosed
  | case18 _ _ _ noOperator notClosed open' =>
    rw [readOn]
    · split
      · next absorbed => exact (open' _ absorbed).elim
      · exact .faults rfl
    · exact noOperator
    · exact notClosed

theorem agrees_expectEnd (stop after : Nat) (tokens : List Token) :
    Agrees Eq (expectEnd stop tokens) (expectEnd after tokens) := by
  cases tokens with
  | nil => exact .values rfl
  | cons => exact .faults rfl

end Expr

namespace Statement

open StepTrace.Expr (agrees_readOn agrees_expectEnd)

theorem agrees_expect (stop after : Nat) (symbol : Symbol) (tokens : List Token) :
    Agrees Eq (expect stop symbol tokens) (expect after symbol tokens) := by
  cases tokens with
  | nil => exact .faults rfl
  | cons token rest =>
    rw [expect, expect]
    split
    · exact .values rfl
    · exact .faults rfl

theorem agrees_expectName (stop after : Nat) (tokens : List Token) :
    Agrees Eq (expectName stop tokens) (expectName after tokens) := by
  unfold expectName
  split
  · exact .values rfl
  · exact .faults rfl

/-! ## The readers of lines -/

/-- Whatever values two results have. -/
abbrev Alike (result other : Except Failure Statement) : Prop := Agrees (fun _ _ => True) result other

theorem alike_readAssignment [CharacterNames] (target : String) (tokens : List Token) :
    Alike (readAssignment line stop target tokens) (readAssignment other after target tokens) := by
  unfold readAssignment
  split
  · exact .faults rfl
  · refine (agrees_readOn stop after _ _ _).bind ?_
    rintro ⟨value, rest⟩ _ rfl
    exact (agrees_expectEnd stop after rest).bind fun _ _ _ => .values trivial

theorem alike_readLoop [CharacterNames] (tokens : List Token) :
    Alike (readLoop line stop tokens) (readLoop other after tokens) := by
  refine (agrees_expectName stop after tokens).bind ?_
  rintro ⟨var, rest⟩ _ rfl
  refine (agrees_expect stop after _ rest).bind ?_
  rintro ⟨_, rest⟩ _ rfl
  refine (agrees_expect stop after _ rest).bind ?_
  rintro ⟨_, rest⟩ _ rfl
  refine (agrees_expect stop after _ rest).bind ?_
  rintro ⟨first, rest⟩ _ rfl
  dsimp only
  split
  · exact .faults rfl
  · refine (agrees_readOn stop after _ _ rest).bind ?_
    rintro ⟨count, rest⟩ _ rfl
    refine (agrees_expect stop after _ rest).bind ?_
    rintro ⟨last, rest⟩ _ rfl
    refine (agrees_expect stop after _ rest).bind ?_
    rintro ⟨_, rest⟩ _ rfl
    exact (agrees_expectEnd stop after rest).bind fun _ _ _ => .values trivial

theorem alike_readPrint [CharacterNames] (tokens : List Token) :
    Alike (readPrint stop tokens) (readPrint after tokens) := by
  unfold readPrint
  split
  · exact (agrees_expectEnd stop after _).bind fun _ _ _ => .values trivial
  · refine (agrees_readOn stop after _ _ _).bind ?_
    rintro ⟨value, rest⟩ _ rfl
    refine (agrees_expect stop after _ rest).bind ?_
    rintro ⟨_, rest⟩ _ rfl
    exact (agrees_expectEnd stop after rest).bind fun _ _ _ => .values trivial

/-- Lines with the same tokens are both read, or both refused for the same cause. -/
theorem alike_ofLine [CharacterNames] {list : List Token}
    (scanned : Tokens.ofLine line = .ok ⟨list, stop⟩)
    (scannedToo : Tokens.ofLine other = .ok ⟨list, after⟩) : Alike (ofLine line) (ofLine other) := by
  rw [ofLine, ofLine, scanned, scannedToo]
  dsimp only [Except.mapError, bind, Except.bind]
  split
  · exact alike_readAssignment _ _
  · exact alike_readLoop _
  · exact alike_readPrint _
  · exact .faults rfl

/-! ## Lines that go on -/

/-- The shape of a line is that of a longer line with the same tokens: the text of a count ends
    before the tokens do. -/
theorem Shaped.append [CharacterNames] (scanned : Tokens.ofLine line = .ok ⟨tokens, stop⟩)
    (shaped : Shaped line tokens statement) (more : List Char) :
    Shaped (line ++ more) tokens statement := by
  cases shaped with
  | question phrase call => exact .question phrase call
  | assignment phrase notCall => exact .assignment phrase notCall
  | blank => exact .blank
  | print phrase => exact .print phrase
  | @loop first second third fourth opening closing last var own count phrase =>
    obtain ⟨list, scannedList, same⟩ := map_eq_ok.mp scanned
    obtain rfl := congrArg Tokens.list same
    obtain ⟨before, rest, whole, place, -⟩ := @Tokens.scanFrom_split line line 1
      (⟨.name "for", first⟩ :: ⟨.name var, second⟩ :: ⟨.name "in", third⟩ ::
        ⟨.name "range", fourth⟩ :: ⟨.leftParen, opening⟩ :: own) [⟨.colon, last⟩]
      ⟨.rightParen, closing⟩ scannedList
    have within : closing - 1 ≤ line.length := by
      rw [whole, List.length_append]
      dsimp only at place
      omega
    rw [← List.take_append_of_le_length within]
    exact .loop phrase

/-- A comment after the tokens of a line has no part in what the line reads as, nor in the cause
    that it is refused for. -/
theorem ofLine_commented [CharacterNames] {gap : List Char} {tokens : Tokens}
    (scanned : Tokens.ofLine line = .ok tokens) (separators : ∀ c ∈ gap, isSeparator c = true)
    (comment : List Char) :
    Agrees Eq (ofLine line) (ofLine (line ++ (gap ++ '#' :: comment))) := by
  obtain ⟨list, scannedList, rfl⟩ := map_eq_ok.mp scanned
  have scannedToo : Tokens.ofLine (line ++ (gap ++ '#' :: comment)) =
      .ok ⟨list, (line ++ (gap ++ '#' :: comment)).length + 1⟩ :=
    map_eq_ok.mpr ⟨list, Tokens.scanFrom_commented _ separators scannedList, rfl⟩
  have alike := alike_ofLine scanned scannedToo
  cases reads : ofLine line with
  | ok statement =>
    obtain ⟨found, scannedAgain, shaped⟩ := ofLine_eq_ok_iff.mp reads
    obtain rfl := Except.ok.inj (scanned.symm.trans scannedAgain)
    rw [ofLine_eq_ok_iff.mpr ⟨_, scannedToo, shaped.append scanned _⟩]
    exact .values rfl
  | error failure =>
    rw [reads] at alike
    generalize ofLine (line ++ (gap ++ '#' :: comment)) = result at alike
    cases alike with
    | faults cause => exact .faults cause
    | aborts abort => exact .aborts abort

end Statement

end StepTrace
