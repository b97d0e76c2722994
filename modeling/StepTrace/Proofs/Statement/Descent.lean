import StepTrace.Proofs.Grammar.Descent.Operands
import StepTrace.Statement

/-!
# Reading a line by descent

A line as a statement, and a text as an expression, read by places in the marks: fixed looks at
the first marks decide, and the rules of the grammar read what is embedded. Main statement: no
list of marks that ends in its only end mark leads a rule past its end, and the reading of every
text and of every line by places comes to what it is read as without them (`reads_within_marks`).
-/

namespace StepTrace.Descent

open StepTrace.Expr (expectEnd nextColumn)

/-! ## Texts and lines -/

/-- The tokens of a text. -/
def scanned (text : List Char) : Except Obstacle Tokens :=
  ((Tokens.ofLine text).mapError .fault).mapError .refused

/-- The expression that a text is. -/
def parse [CharacterNames] (depth : Nat) (text : List Char) : Except Obstacle Expr := do
  let tokens ← scanned text
  let (expr, next) ← descend tokens.marks depth (.chain false) 0
  let _ ← take tokens.marks none next
  return expr

/-- Takes a name that has to come next. -/
def takeName (marks : List Mark) (place : Nat) : Except Obstacle (String × Nat) := do
  match ← look marks place with
  | (some (.name text), _) => return (text, place + 1)
  | _ => refuse marks .unexpectedToken place

/-- The statement of a name that is set to the expression from the third mark on. -/
def readAssignment [CharacterNames] (marks : List Mark) (line : List Char) (depth : Nat)
    (target : String) : Except Obstacle Statement := do
  let (third, column) ← look marks 2
  if third = none then throw (.refused (.fault (Fault.about .unexpectedToken column line)))
  else
    let (value, next) ← descend marks depth (.chain false) 2
    let _ ← take marks none next
    return value.call?.elim (.assignment target value) (.question target)

/-- The loop that begins with the first mark. -/
def readLoop [CharacterNames] (marks : List Mark) (line : List Char) (depth : Nat) :
    Except Obstacle Statement := do
  let (_, next) ← take marks (some (.name "for")) 0
  let (var, next) ← takeName marks next
  let (_, next) ← take marks (some (.name "in")) next
  let (_, next) ← take marks (some (.name "range")) next
  let (first, next) ← take marks (some .leftParen) next
  let (argument, _) ← look marks next
  if argument = some .rightParen then refuse marks .missingCount next
  else
    let (count, next) ← descend marks depth (.chain false) next
    let (last, next) ← take marks (some .rightParen) next
    let (_, next) ← take marks (some .colon) next
    let _ ← take marks none next
    return .loop var count (Text.trim ((line.take (last - 1)).drop first))

/-- The expression from a place on, or nothing before a closing parenthesis. -/
def readArgument [CharacterNames] (marks : List Mark) (depth place : Nat) :
    Except Obstacle (Option Expr × Nat) := do
  let (first, _) ← look marks place
  if first = some .rightParen then return (none, place)
  else
    let (value, next) ← descend marks depth (.chain false) place
    return (some value, next)

/-- The statement that prints what stands from the third mark on. -/
def readPrint [CharacterNames] (marks : List Mark) (depth : Nat) : Except Obstacle Statement := do
  let (value, next) ← readArgument marks depth 2
  let (_, next) ← take marks (some .rightParen) next
  let _ ← take marks none next
  return .print value

/-- The statement that begins with the first mark. -/
def readStatement [CharacterNames] (marks : List Mark) (line : List Char) (depth : Nat) :
    Except Obstacle Statement := do
  let (first, _) ← look marks 0
  match first with
  | some (.name word) =>
    let (second, _) ← look marks 1
    if second = some .equals then readAssignment marks line depth word
    else if word = "for" then readLoop marks line depth
    else if word = "print" ∧ second = some .leftParen then readPrint marks depth
    else throw (.refused (.fault (Fault.about .unknownStatement 1 line)))
  | _ => throw (.refused (.fault (Fault.about .unknownStatement 1 line)))

/-- The statement of a line. -/
def statement [CharacterNames] (depth : Nat) (line : List Char) : Except Obstacle Statement := do
  let tokens ← scanned line
  readStatement tokens.marks line depth

/-! ## Readings by places and readings of a rest -/

variable {α β : Type} {tokens : Tokens} {place depth : Nat} {line : List Char}

/-- A reading by places and a reading of a list do the same: both refuse the line alike, or they
    return the same, and the place is that of the tokens that are left. -/
inductive Tracks (tokens : Tokens) :
    Except Obstacle (α × Nat) → Except Failure (α × List Token) → Prop
  | read {a : α} {next : Nat} (inside : next < tokens.marks.length) :
      Tracks tokens (.ok (a, next)) (.ok (a, tokens.ahead next))
  | refused {failure : Failure} : Tracks tokens (.error (.refused failure)) (.error failure)

/-- What does the same after readings that do the same does the same altogether. -/
theorem Tracks.bind {placed : Except Obstacle (α × Nat)} {read : Except Failure (α × List Token)}
    {onward : α × Nat → Except Obstacle β} {later : α × List Token → Except Failure β}
    (tracks : Tracks tokens placed read)
    (same : ∀ a next, next < tokens.marks.length →
      onward (a, next) = (later (a, tokens.ahead next)).mapError .refused) :
    (placed >>= onward) = (read >>= later).mapError .refused := by
  cases tracks with
  | read inside => exact same _ _ inside
  | refused => rfl

theorem look_bind {onward : Mark → Except Obstacle β} (inside : place < tokens.marks.length) :
    (look tokens.marks place >>= onward) =
      onward ((tokens.ahead place).head?.map Token.symbol,
        nextColumn tokens.stop (tokens.ahead place)) := by
  rw [look_marks inside]
  rfl

theorem tracks_take {due : Symbol} (inside : place < tokens.marks.length) :
    Tracks tokens (take tokens.marks (some due) place)
      (Statement.expect tokens.stop due (tokens.ahead place)) := by
  by_cases here : (tokens.ahead place).head?.map Token.symbol = some due
  · obtain ⟨column, rest, front⟩ := exists_of_next here
    obtain ⟨rfl, further⟩ := ahead_of_cons front
    rw [take_here front, front, Statement.expect, if_pos rfl]
    exact .read further
  · rw [take_other inside here, refusal]
    cases front : tokens.ahead place with
    | nil => exact .refused
    | cons token rest =>
      have other : token.symbol ≠ due := by simpa [front] using here
      rw [Statement.expect, if_neg other]
      exact .refused

theorem tracks_takeName (inside : place < tokens.marks.length) :
    Tracks tokens (takeName tokens.marks place)
      (Statement.expectName tokens.stop (tokens.ahead place)) := by
  rw [takeName, look_marks inside]
  cases front : tokens.ahead place with
  | nil =>
    show Tracks tokens (refuse tokens.marks .unexpectedToken place) _
    rw [refuse_marks inside, refusal, front]
    exact .refused
  | cons token rest =>
    obtain ⟨symbol, column⟩ := token
    obtain ⟨rfl, further⟩ := ahead_of_cons front
    cases symbol with
    | name text => exact .read further
    | _ =>
      show Tracks tokens (refuse tokens.marks .unexpectedToken place) _
      rw [refuse_marks inside, refusal, front]
      exact .refused

/-- An expression ends where no operator comes next. -/
theorem readOn_end [CharacterNames] {stop : Nat} {expr : Expr} {rest : List Token}
    (ended : Over false rest) : Expr.readOn stop [] (some expr) rest = .ok (expr, rest) := by
  cases rest with
  | nil => simp [Expr.readOn, Frame.absorb]
  | cons token others =>
    obtain ⟨symbol, column⟩ := token
    cases symbol with
    | operator op =>
      have apart := ended _ rfl
      cases level : op.isProduct <;> simp [Symbol.joint?, level] at apart
    | _ => simp [Expr.readOn, Frame.absorb]

theorem tracks_sum [CharacterNames] (inside : place < tokens.marks.length)
    (deep : (Rule.chain false).need tokens.marks.length ≤ depth) :
    Tracks tokens (descend tokens.marks depth (.chain false) place)
      (Expr.read tokens.stop (tokens.ahead place)) := by
  obtain ⟨outcome, comes⟩ := comes tokens (.chain false) place inside
  have fewer := (Rule.chain false).need_mono (Nat.sub_le tokens.marks.length place)
  have due : (Rule.chain false).Due [] (tokens.ahead place) := nofun
  rw [comes.settled depth (by omega), Expr.read, comes.agrees [] due]
  rcases outcome with failure | ⟨expr, next⟩
  · exact .refused
  · show Tracks tokens _ (Expr.readOn tokens.stop [] (some expr) (tokens.ahead next))
    rw [readOn_end (comes.ended expr next rfl)]
    exact .read (comes.within expr next rfl).2

theorem take_end_bind {onward : Nat × Nat → Except Obstacle β} {later : Unit → Except Failure β}
    (inside : place < tokens.marks.length)
    (same : ∀ taken, onward taken = (later ()).mapError .refused) :
    (take tokens.marks none place >>= onward) =
      (expectEnd tokens.stop (tokens.ahead place) >>= later).mapError .refused := by
  cases front : tokens.ahead place with
  | nil =>
    rw [take, look_marks inside, front]
    exact same _
  | cons token rest =>
    rw [take_other inside (by simp [front]), refusal, front]
    rfl

/-! ## Texts and lines by places -/

theorem readArgument_closed [CharacterNames] (inside : place < tokens.marks.length)
    (closes : (tokens.ahead place).head?.map Token.symbol = some .rightParen) :
    readArgument tokens.marks depth place = .ok (none, place) := by
  rw [readArgument, look_bind inside]
  exact if_pos closes

theorem readArgument_open [CharacterNames] (inside : place < tokens.marks.length)
    (apart : (tokens.ahead place).head?.map Token.symbol ≠ some .rightParen) :
    readArgument tokens.marks depth place =
      descend tokens.marks depth (.chain false) place >>= fun (value, next) =>
        .ok (some value, next) := by
  rw [readArgument, look_bind inside]
  exact if_neg apart

theorem readStatement_name [CharacterNames] {word : String} {column : Nat} {rest : List Token}
    (front : tokens.ahead 0 = ⟨.name word, column⟩ :: rest) :
    readStatement tokens.marks line depth =
      if rest.head?.map Token.symbol = some .equals then
        readAssignment tokens.marks line depth word
      else if word = "for" then readLoop tokens.marks line depth
      else if word = "print" ∧ rest.head?.map Token.symbol = some .leftParen then
        readPrint tokens.marks depth
      else .error (.refused (.fault (Fault.about .unknownStatement 1 line))) := by
  obtain ⟨rfl, further⟩ := ahead_of_cons front
  rw [readStatement, look_bind (Nat.lt_of_succ_lt further), front]
  dsimp only [List.head?_cons, Option.map_some]
  rw [look_bind further]
  rfl

/-- Any other beginning is that of no statement. -/
theorem readStatement_unknown [CharacterNames]
    (noAssignment : ∀ word first second rest,
      tokens.list = ⟨.name word, first⟩ :: ⟨.equals, second⟩ :: rest → False)
    (noLoop : ∀ first rest, tokens.list = ⟨.name "for", first⟩ :: rest → False)
    (noPrint : ∀ first second rest,
      tokens.list = ⟨.name "print", first⟩ :: ⟨.leftParen, second⟩ :: rest → False) :
    readStatement tokens.marks line depth =
      .error (.refused (.fault (Fault.about .unknownStatement 1 line))) := by
  have whole : tokens.ahead 0 = tokens.list := List.drop_zero
  cases list : tokens.list with
  | nil =>
    rw [readStatement, look_bind (by simp [length_marks]), whole, list]
    rfl
  | cons token rest =>
    obtain ⟨symbol, column⟩ := token
    have front : tokens.ahead 0 = ⟨symbol, column⟩ :: rest := whole.trans list
    cases symbol with
    | name word =>
      rw [readStatement_name front]
      refine (if_neg fun equals => ?_).trans ((if_neg ?_).trans (if_neg ?_))
      · obtain ⟨second, others, rfl⟩ := exists_of_next equals
        exact noAssignment word column second others list
      · rintro rfl
        exact noLoop column rest list
      · rintro ⟨rfl, paren⟩
        obtain ⟨second, others, rfl⟩ := exists_of_next paren
        exact noPrint column second others list
    | _ =>
      rw [readStatement, look_bind (by simp [length_marks]), front]
      rfl

section Marks

variable (deep : (Rule.chain false).need tokens.marks.length ≤ depth)

include deep

theorem readAssignment_marks [CharacterNames] {target : String} (inside : 2 < tokens.marks.length) :
    readAssignment tokens.marks line depth target =
      (Statement.readAssignment line tokens.stop target (tokens.ahead 2)).mapError .refused := by
  have reads := tracks_sum inside deep
  rw [readAssignment, look_marks inside]
  cases front : tokens.ahead 2 with
  | nil => rfl
  | cons token rest =>
    rw [front] at reads
    exact reads.bind fun value next inside => take_end_bind inside fun _ => rfl

theorem readPrint_marks [CharacterNames] (inside : 2 < tokens.marks.length) :
    readPrint tokens.marks depth =
      (Statement.readPrint tokens.stop (tokens.ahead 2)).mapError .refused := by
  by_cases closes : (tokens.ahead 2).head?.map Token.symbol = some .rightParen
  · obtain ⟨column, rest, front⟩ := exists_of_next closes
    obtain ⟨rfl, further⟩ := ahead_of_cons front
    rw [readPrint, readArgument_closed inside closes]
    show take tokens.marks (some .rightParen) 2 >>= _ = _
    rw [take_here front, front]
    exact take_end_bind further fun _ => rfl
  · rw [readPrint, readArgument_open inside closes, bind_assoc]
    unfold Statement.readPrint
    split
    · next front => simp [front] at closes
    · refine (tracks_sum inside deep).bind fun value next inside => ?_
      refine (tracks_take inside).bind fun _ next inside => ?_
      exact take_end_bind inside fun _ => rfl

theorem readLoop_marks [CharacterNames] {rest : List Token} {column : Nat}
    (front : tokens.ahead 0 = ⟨.name "for", column⟩ :: rest) :
    readLoop tokens.marks line depth =
      (Statement.readLoop line tokens.stop rest).mapError .refused := by
  obtain ⟨rfl, further⟩ := ahead_of_cons front
  rw [readLoop, take_here front]
  refine (tracks_takeName further).bind fun var next inside => ?_
  refine (tracks_take inside).bind fun _ next inside => ?_
  refine (tracks_take inside).bind fun _ next inside => ?_
  refine (tracks_take inside).bind fun first next inside => ?_
  dsimp only
  rw [look_bind inside]
  by_cases closes : (tokens.ahead next).head?.map Token.symbol = some .rightParen
  · obtain ⟨column, rest, argument⟩ := exists_of_next closes
    rw [if_pos closes, refuse_marks inside, refusal, argument]
    rfl
  · rw [if_neg closes]
    split
    · next argument => simp [argument] at closes
    · refine (tracks_sum inside deep).bind fun count next inside => ?_
      refine (tracks_take inside).bind fun last next inside => ?_
      refine (tracks_take inside).bind fun _ next inside => ?_
      exact take_end_bind inside fun _ => rfl

/-- By the first two tokens, as the list of them is read. -/
theorem statement_eq_of_scanned [CharacterNames] (scans : Tokens.ofLine line = .ok tokens) :
    statement depth line = (Statement.ofLine line).mapError .refused := by
  have whole : tokens.ahead 0 = tokens.list := List.drop_zero
  rw [statement, scanned, scans, Statement.ofLine, scans]
  show readStatement tokens.marks line depth = Except.mapError _ (Except.bind (.ok tokens) _)
  dsimp only [Except.bind]
  split
  · next target _ _ rest front =>
    rw [← whole] at front
    obtain ⟨second, further⟩ := ahead_of_cons front
    obtain ⟨rfl, behind⟩ := ahead_of_cons second
    rw [readStatement_name front]
    exact (if_pos rfl).trans (readAssignment_marks deep behind)
  · next first rest apart front =>
    rw [← whole] at front
    rw [readStatement_name front]
    refine (if_neg fun equals => ?_).trans ((if_pos rfl).trans (readLoop_marks deep front))
    obtain ⟨column, others, same⟩ := exists_of_next equals
    exact apart column others same
  · next first opening rest front =>
    rw [← whole] at front
    obtain ⟨second, further⟩ := ahead_of_cons front
    obtain ⟨rfl, behind⟩ := ahead_of_cons second
    rw [readStatement_name front]
    refine (if_neg (by simp)).trans ((if_neg (by decide)).trans ?_)
    exact (if_pos ⟨rfl, rfl⟩).trans (readPrint_marks deep behind)
  · next noAssignment noLoop noPrint =>
    exact readStatement_unknown noAssignment noLoop noPrint

/-- A text is read by the rule for a sum, and nothing may follow. -/
theorem parse_eq_of_scanned [CharacterNames] {text : List Char}
    (scans : Tokens.ofLine text = .ok tokens) :
    parse depth text = (Expr.parse text).mapError .refused := by
  have whole : tokens.ahead 0 = tokens.list := List.drop_zero
  rw [parse, scanned, scans, Expr.parse, scans]
  show descend tokens.marks depth (.chain false) 0 >>= _ =
    Except.mapError _ (Expr.read tokens.stop tokens.list >>= _)
  rw [← whole]
  refine (tracks_sum (by simp [length_marks]) deep).bind fun expr next inside => ?_
  exact take_end_bind inside fun _ => rfl

end Marks

/-! ## How deep a line is read -/

/-- A text has no more tokens than characters. -/
theorem length_of_scanFrom {text : List Char} {column : Nat} {list : List Token}
    (scans : Tokens.scanFrom line column text = .ok list) : list.length ≤ text.length := by
  fun_induction Tokens.scanFrom line column text generalizing list with
  | case1 =>
    cases scans
    rfl
  | case2 column c rest _ ih => exact Nat.le_succ_of_le (ih scans)
  | case3 =>
    cases scans
    exact Nat.zero_le _
  | case4 column c rest _ _ symbol after read ih =>
    obtain ⟨later, scansLater, rfl⟩ := Run.map_eq_ok.mp scans
    have fewer := ih scansLater
    have shorter := Symbol.scan_length read
    rw [List.length_cons]
    omega
  | case5 => cases scans

theorem need_of_scanned {text : List Char} (scans : Tokens.ofLine text = .ok tokens) :
    (Rule.chain false).need tokens.marks.length ≤ 2 * text.length + 5 := by
  obtain ⟨list, scansList, rfl⟩ := Run.map_eq_ok.mp scans
  have fewer := length_of_scanFrom scansList
  rw [Rule.need_sum, length_marks]
  show 2 * (list.length + 1) + 3 ≤ 2 * text.length + 5
  omega

/-- By places a text is the same expression, or is refused alike. -/
theorem parse_eq [CharacterNames] {text : List Char} (deep : 2 * text.length + 5 ≤ depth) :
    parse depth text = (Expr.parse text).mapError .refused := by
  cases scans : Tokens.ofLine text with
  | error fault =>
    rw [parse, scanned, scans, Expr.parse, scans]
    rfl
  | ok tokens => exact parse_eq_of_scanned (Nat.le_trans (need_of_scanned scans) deep) scans

/-- By places a line is the same statement, or is refused alike. -/
theorem statement_eq [CharacterNames] (deep : 2 * line.length + 5 ≤ depth) :
    statement depth line = (Statement.ofLine line).mapError .refused := by
  cases scans : Tokens.ofLine line with
  | error fault =>
    rw [statement, scanned, scans, Statement.ofLine, scans]
    rfl
  | ok tokens => exact statement_eq_of_scanned (Nat.le_trans (need_of_scanned scans) deep) scans

/-! ## Marks that end once -/

/-- The last mark is the only one without a symbol. -/
def EndsOnce (marks : List Mark) : Prop :=
  ∃ front stop, marks = front ++ [(none, stop)] ∧ ∀ mark ∈ front, mark.1 ≠ none

theorem exists_tokens {marks : List Mark} (ends : EndsOnce marks) :
    ∃ tokens : Tokens, tokens.marks = marks := by
  obtain ⟨front, stop, rfl, symbols⟩ := ends
  have written : ∃ list : List Token, list.map Token.mark = front := by
    induction front with
    | nil => exact ⟨[], rfl⟩
    | cons mark others ih =>
      obtain ⟨list, rfl⟩ := ih fun mark member => symbols mark (List.mem_cons_of_mem _ member)
      obtain ⟨symbol, column⟩ := mark
      cases symbol with
      | none => exact absurd rfl (symbols _ List.mem_cons_self)
      | some symbol => exact ⟨⟨symbol, column⟩ :: list, rfl⟩
  obtain ⟨list, rfl⟩ := written
  exact ⟨⟨list, stop⟩, rfl⟩

/-- In marks that end once, every rule comes to an end wherever it begins: it looks at no mark
    that is not there, and where it succeeds it stops at a later mark. So no text and no line is
    looked at past its end, and a depth that grows with its length is enough for it. -/
theorem reads_within_marks [CharacterNames] :
    (∀ marks, EndsOnce marks → ∃ tokens : Tokens, tokens.marks = marks ∧
      ∀ rule place, place < marks.length → ∃ outcome, Comes tokens rule place outcome) ∧
    (∀ text depth, 2 * text.length + 5 ≤ depth →
      parse depth text = (Expr.parse text).mapError .refused) ∧
    ∀ line depth, 2 * line.length + 5 ≤ depth →
      statement depth line = (Statement.ofLine line).mapError .refused := by
  refine ⟨fun marks ends => ?_, fun _ _ => parse_eq, fun _ _ => statement_eq⟩
  obtain ⟨tokens, rfl⟩ := exists_tokens ends
  exact ⟨tokens, rfl, comes tokens⟩

section
attribute [local instance] CharacterNames.unnamed

/-- A call in a product is read up to the end, and the look behind an equals sign finds the end. -/
theorem reads_within_marks_signed_call :
    let marks : List Mark := [(some (.operator .sub), 1), (some (.name "input"), 2),
      (some .leftParen, 7), (some (.name "a"), 8), (some (.operator .add), 10),
      (some (.name "b"), 12), (some .rightParen, 13), (some (.operator .mul), 15),
      (some (.name "c"), 17), (none, 18)]
    let tree : Expr := .binary 15 .mul
      (.unary 1 .minus (.prompt 2 (.binary 10 .add (.name 8 "a") (.name 12 "b")))) (.name 17 "c")
    (EndsOnce marks ∧ 0 < marks.length ∧
      ∃ tokens : Tokens, tokens.marks = marks ∧ Comes tokens (.chain false) 0 (.ok (tree, 9))) ∧
    (2 * "a +".toList.length + 5 ≤ 11 ∧
      parse 11 "a +".toList = .error (.refused (.fault (Fault.atColumn .unexpectedToken 4)))) ∧
    2 * "a =".toList.length + 5 ≤ 11 ∧
      statement 11 "a =".toList =
        .error (.refused (.fault (Fault.about .unexpectedToken 4 "a =".toList))) := by
  intro marks tree
  obtain ⟨rules, texts, lines⟩ := reads_within_marks
  have ends : EndsOnce marks := ⟨marks.dropLast, 18, rfl, by decide⟩
  refine ⟨⟨ends, by decide, ?_⟩, ⟨by decide, ?_⟩, by decide, ?_⟩
  · obtain ⟨tokens, same, within⟩ := rules marks ends
    obtain ⟨outcome, comes⟩ := within (.chain false) 0 (by decide)
    have read : descend tokens.marks 30 (.chain false) 0 = .ok (tree, 9) := by
      rw [same]
      rfl
    have settled := comes.settled 30 (by rw [same]; decide)
    obtain rfl := Run.mapError_eq_ok.mp (settled.symm.trans read)
    exact ⟨tokens, same, comes⟩
  · have scans : Tokens.ofLine "a +".toList =
        .ok ⟨[⟨.name "a", 1⟩, ⟨.operator .add, 3⟩], 4⟩ := by decide +kernel
    rw [texts "a +".toList 11 (by decide), Expr.parse, scans]
    rfl
  · have scans : Tokens.ofLine "a =".toList = .ok ⟨[⟨.name "a", 1⟩, ⟨.equals, 3⟩], 4⟩ := by
      decide +kernel
    rw [lines "a =".toList 11 (by decide), Statement.ofLine, scans]
    rfl

end

section
attribute [local instance] CharacterNames.unnamed

/-- Without a mark for the end a rule looks past the last one. -/
example : descend [(some (.name "a"), 1)] 9 (.chain false) 0 = .error .beyond := rfl

end

end StepTrace.Descent
