import StepTrace.Proofs.Assignment
import StepTrace.Proofs.Json.Quoted
import StepTrace.Proofs.Presentable
import StepTrace.Proofs.Source
import StepTrace.Proofs.Trace.Explanation

/-!
# Assignments as they are shown

A step that assigns an integer or a text shows the value in JSON, and what it shows is source for
the same value (`exists_isSourceOf`): the digits of an integer, after a minus when it is negative,
and a text between double quotes. So the line that assigns what was shown reads as an assignment
of the value, and running it shows the same again (`run_restated`).
-/

namespace StepTrace

open Machine

variable {limits : Limits} {scope : Scope} {target : String} {value : Value}
  {text source : List Char}

/-! ## Source for a value -/

/-- A text that can end a line and has a value, whatever the variables are. -/
structure IsSourceOf [CharacterNames] (text : List Char) (value : Value) : Prop where
  reads : ∃ expr, Expr.parse text = .ok expr ∧ expr.call? = none ∧
    ∀ scope, expr.eval scope = .ok value
  oneLine : '\n' ∉ text
  ends : ∃ last, text.getLast? = some last ∧ Text.isBlank last = false

/-- The digits of an integer with its sign are source for it. -/
theorem isSourceOf_decimal [CharacterNames] {n : Int}
    (short : (Nat.toDigits 10 n.natAbs).length ≤ Text.digitLimit) :
    IsSourceOf (Text.decimal n) (.int n) := by
  have formed := SignedNumeral.formed_ofInt n
  rw [← SignedNumeral.lexeme_ofInt]
  refine ⟨SignedNumeral.exists_parse formed (SignedNumeral.means_ofInt short), fun newline => ?_, ?_⟩
  · cases SignedNumeral.visible formed newline
  · obtain ⟨last, ends⟩ := Option.isSome_iff_exists.mp
      (List.getLast?_isSome.mpr (SignedNumeral.lexeme_ne_nil formed))
    exact ⟨last, ends, SignedNumeral.visible formed (List.mem_of_getLast? ends)⟩

private theorem newline_not_mem_quoted {mark : Char} (quoted : Symbol.Quoted mark text) :
    '\n' ∉ text := by
  induction quoted with
  | nil => exact List.not_mem_nil
  | escape sameLine _ ih => simpa [ih] using sameLine.symm
  | plain _ sameLine _ _ ih => simpa [ih] using sameLine.symm

/-- A text between double quotes is source for the text. -/
theorem isSourceOf_quoted [CharacterNames] (text : List Char) :
    IsSourceOf ('\x22' :: text.flatMap (Json.quotedChar false) ++ ['\x22'])
      (.str (.ofChars text)) := by
  have body := Json.quoted_body text
  have formed : Symbol.Formed (.string '\x22' (text.flatMap (Json.quotedChar false))) := ⟨rfl, body⟩
  have denotes : Denotes (.string '\x22' (text.flatMap (Json.quotedChar false)))
      (.str (.ofChars text)) := .string (Json.unescape_body text)
  refine ⟨⟨_, Expr.parse_lexeme formed denotes, rfl, fun _ => rfl⟩, ?_, '\x22', ?_, by decide⟩
  · have sameLine := newline_not_mem_quoted body
    simpa using sameLine
  · exact List.getLast?_concat ..

/-- An integer, or a text of characters. -/
def IsWritable (value : Value) : Prop :=
  (∃ n, value = .int n) ∨ ∃ text : List Char, value = .str (.ofChars text)

/-- What is shown of an integer or of a text of characters is source for it. -/
theorem exists_isSourceOf [CharacterNames] {shown : Text} (writable : IsWritable value)
    (written : Json.write? Json.inline value = some shown) :
    ∃ source, shown = .ofChars source ∧ IsSourceOf source value := by
  rcases writable with ⟨n, rfl⟩ | ⟨text, rfl⟩
  · rw [Json.write?_int] at written
    obtain ⟨digits, shows, rfl⟩ := Option.map_eq_some_iff.mp written
    have presentable := presentable_int_iff.mpr (Option.isSome_of_eq_some shows)
    obtain rfl := Text.eq_decimal_of_decimal? shows
    cases presentable with
    | int short => exact ⟨_, rfl, isSourceOf_decimal short⟩
  · rw [Json.write?_str, Json.quoted_ofChars] at written
    exact ⟨_, (Option.some.inj written).symm, isSourceOf_quoted text⟩

/-! ## The line that assigns it -/

/-- The line reads as an assignment of the value. -/
theorem exists_ofLine [CharacterNames] (named : IsName target.toList)
    (source : IsSourceOf text value) :
    ∃ expr, Statement.ofLine (settingText [] target text) = .ok (.assignment target expr) ∧
      ∀ scope, expr.eval scope = .ok value := by
  obtain ⟨expr, parsed, notCall, valued⟩ := source.reads
  exact ⟨_, Statement.ofLine_assignment named parsed notCall, fun scope =>
    Expr.eval_shifted (valued scope)⟩

/-- The line alone is a program of one line. -/
private theorem lines_setting [CharacterNames] (named : IsName target.toList)
    (source : IsSourceOf text value) :
    Source.lines (settingText [] target text) = [⟨1, settingText [] target text⟩] := by
  have free := newline_not_mem_settingText List.not_mem_nil named source.oneLine
  have whole := Text.split_append free []
  rw [List.append_nil] at whole
  rw [Source.lines_eq_linesFrom, whole]
  simp [Text.split, Text.splitAfter, Source.linesFrom]

/-- The line sets the variable, and its step shows the value. -/
theorem run_setting [CharacterNames] (named : IsName target.toList) (is : IsSourceOf source value)
    (written : Json.write? Json.inline value = some (.ofChars source)) (room : 0 < limits.steps)
    (scope : Scope) :
    run limits (settingText [] target source) scope 0 none =
      .ok ⟨[⟨1, .assigned target (.ofChars source), scope.set target value⟩], none⟩ := by
  obtain ⟨expr, reads, valued⟩ := exists_ofLine named is
  obtain ⟨last, ends, visible⟩ := is.ends
  have content : Line.content ⟨1, settingText [] target source⟩ =
      settingText [] target source := content_setting 1 nofun named ends visible
  rw [← content] at reads
  have does : Run.effect limits scope (.assignment target expr) =
      .ok (.assigned target (.ofChars source), scope.set target value) :=
    Run.effect_assignment.mpr ⟨value, valued scope, _, written, rfl, rfl⟩
  have single : outline [⟨1, settingText [] target source⟩] =
      [.mk 1 (.ok (.assignment target expr)) []] := by
    have noLoop : ∀ var count text,
        Statement.ofLine (Line.content ⟨1, settingText [] target source⟩) ≠
          .ok (.loop var count text) := by simp [reads]
    rw [outline_line [] (active_of_reads reads) noLoop, reads, outline_nil]
  -- One item, one step: what the run does is the effect of its only line.
  have unanswered : ∀ given ∈ (none : Option Answer),
      Text.isIdentifier given.target.toList = true := nofun
  have roomLeft : (Run.entryState limits scope).remaining ≠ 0 := by
    simp only [Run.entryState]
    omega
  rw [run_eq_map_items limits _ (Int.le_refl 0) unanswered, lines_setting named is]
  show (Run.items limits (outline [_]) (Run.entryState limits scope)).map _ = _
  rw [single, Run.items, item_of_room roomLeft]
  simp only [Run.perform, Run.entryState, does]
  rfl

/-! ## Assignments of a run -/

/-- A step that assigns a value shows source for it: the line that assigns what the step shows
    reads as an assignment of the value, whatever the variables are, and running it shows the
    same again. -/
structure Restated [CharacterNames] (step : Step) (target : String) (source : List Char)
    (value : Value) : Prop where
  described : step.description =
    ("Assign " : Text) ++ .ofChars source ++ (" to '" ++ target ++ "'" : String)
  reads : ∃ expr,
    Statement.ofLine (settingText [] target source) = .ok (.assignment target expr) ∧
      ∀ scope, expr.eval scope = .ok value
  again : ∀ (limits : Limits) (scope : Scope), 0 < limits.steps → ∃ next : Step,
    run limits (settingText [] target source) scope 0 none = .ok ⟨[next], none⟩ ∧
      next.description = step.description ∧ next.scope = scope.set target value

/-- The step of an assignment shows its value, which its variable has. -/
theorem exists_of_assigned [CharacterNames] {code : List Char} {start : Int}
    {answer : Option Answer} {response : Response} {step : Step} {shown : Text}
    (returns : run limits code scope start answer = .ok response) (member : step ∈ response.trace)
    (assigns : step.event = .assigned target shown) :
    IsName target.toList ∧ ∃ value, step.scope.get? target = some value ∧
      Json.write? Json.inline value = some shown := by
  obtain ⟨earlier, later, whole⟩ := List.append_of_mem member
  have inside : earlier ++ [step] <+: response.trace := ⟨later, by rw [whole]; simp⟩
  obtain ⟨-, last, reaches, stops⟩ := ends_of_run_eq_ok returns
  have normal : step.isError = false := by rw [Step.isError, assigns]
  obtain ⟨statement, ⟨⟨line, -, -, reads⟩, explains⟩, -⟩ :=
    (stops.accounted reaches rfl inside normal).explained
  cases statement with
  | assignment own expr =>
    obtain ⟨value, -, ⟨text, written, event⟩, set⟩ := explains
    obtain ⟨rfl, rfl⟩ := Event.assigned.inj (assigns.symm.trans event)
    refine ⟨Statement.ofLine_isName reads rfl, value, ?_, written⟩
    rw [set, Scope.get?_set, if_pos rfl]
  | print expr =>
    obtain ⟨value, -, ⟨output, -, event⟩, -⟩ := explains
    cases assigns.symm.trans event
  | question own prompt =>
    obtain ⟨value, -, ⟨text, -, event⟩, -⟩ := explains
    cases assigns.symm.trans event
  | loop var count text =>
    rcases explains with ⟨value, n, times, -, -, -, -, event, -⟩ | ⟨index, event, -⟩ <;>
      cases assigns.symm.trans event

/-- A step of a run that assigns an integer or a text of characters to a variable is restated by
    what it shows. -/
theorem run_restated [CharacterNames] {code : List Char} {start : Int} {answer : Option Answer}
    {response : Response} {step : Step} {shown : Text}
    (returns : run limits code scope start answer = .ok response) (member : step ∈ response.trace)
    (assigns : step.event = .assigned target shown) (stored : step.scope.get? target = some value)
    (writable : IsWritable value) :
    ∃ source, shown = .ofChars source ∧ Restated step target source value := by
  obtain ⟨named, own, held, written⟩ := exists_of_assigned returns member assigns
  obtain rfl := Option.some.inj (held.symm.trans stored)
  obtain ⟨source, rfl, is⟩ := exists_isSourceOf writable written
  have described : step.description =
      ("Assign " : Text) ++ .ofChars source ++ (" to '" ++ target ++ "'" : String) := by
    rw [Step.description, assigns]
  refine ⟨source, rfl, described, exists_ofLine named is, fun limits scope room => ?_⟩
  refine ⟨_, run_setting named is written room scope, ?_, rfl⟩
  rw [Step.description, Step.description, assigns]

section
attribute [local instance] CharacterNames.unnamed

/-- A quote, a backslash, a null character and a letter beyond ASCII are assigned again by what
    the step of their assignment shows. -/
theorem run_restated_escapes :
    run Limits.standard "s = '\"\\\\\\x00é'".toList [] 0 none =
        .ok ⟨[⟨1, .assigned "s" "\"\\\"\\\\\\u0000é\"", [("s", .str "\"\\\x00é")]⟩], none⟩ ∧
      ∃ source, ("\"\\\"\\\\\\u0000é\"" : Text) = .ofChars source ∧
        Restated ⟨1, .assigned "s" "\"\\\"\\\\\\u0000é\"", [("s", .str "\"\\\x00é")]⟩ "s" source
          (.str "\"\\\x00é") := by
  have returns : run Limits.standard "s = '\"\\\\\\x00é'".toList [] 0 none =
      .ok ⟨[⟨1, .assigned "s" "\"\\\"\\\\\\u0000é\"", [("s", .str "\"\\\x00é")]⟩], none⟩ := by
    decide +kernel
  exact ⟨returns, run_restated returns List.mem_cons_self rfl rfl (.inr ⟨_, rfl⟩)⟩

end

end StepTrace
