import StepTrace.Proofs.Run.Correspondence
import StepTrace.Proofs.Source
import StepTrace.Proofs.Statement.Places

/-!
# The layout of a program

How deep a line is indented counts only against the lines around it, and a comment after the
tokens of a line counts for nothing. A program that is laid out anew so that deeper lines stay
deeper, and that ends any of its lines with a comment, has the same run, but for the places in a
line that a fault names and that no step shows (`run_relaid`).
-/

namespace StepTrace

open Statement (ofLine_commented)
open Text (isBlank trim trimStart trimEnd)

/-! ## Lines -/

/-- A line that is laid out anew: a blank line stays as it is, and any other one is indented
    by so many spaces and may end with a comment where its tokens can be read. -/
inductive Relaid (widen : Nat → Nat) : List Char → List Char → Prop
  | blank {text : List Char} (blank : trim text = []) : Relaid widen text text
  | indented {text : List Char} (visible : trim text ≠ []) :
    Relaid widen text (List.replicate (widen (Text.indent text)) ' ' ++ trimStart text)
  | commented {text : List Char} (gap : Nat) (comment : List Char) (visible : trim text ≠ [])
      (scanned : (∃ tokens, Tokens.ofLine (trim text) = .ok tokens) ∨ (trim text).head? = some '#') :
    Relaid widen text
      (List.replicate (widen (Text.indent text)) ' ' ++
        (trim text ++ (List.replicate gap ' ' ++ '#' :: comment)))

private theorem blank_of_mem_replicate {count : Nat} :
    ∀ c ∈ List.replicate count ' ', isBlank c = true := by
  intro c member
  rw [List.eq_of_mem_replicate member]
  decide

/-- Runs of programs of which one is laid out anew: a fault may name another place. -/
private def layout (widen : Nat → Nat) (widens : StrictMono widen) : Correspondence where
  number := id
  width := widen
  scopes := fun scope other => other = scope
  faults := fun fault other => other.cause = fault.cause
  widens := widens
  faults_self := fun _ => rfl

variable {limits : Limits} {widen : Nat → Nat} {widens : StrictMono widen} {text textToo : List Char}
  {number : Nat}

private theorem readings_of_agrees {reading twin : Except Failure Statement}
    (agrees : Agrees Eq reading twin) : (layout widen widens).Readings limits reading twin := by
  cases agrees with
  | values same =>
    subst same
    exact .reads (.of_eq (fun _ _ => Iff.rfl) _)
  | faults cause => exact .fails (.fault cause)
  | aborts abort => exact .fails (.abort abort)

private theorem lines_blank [CharacterNames] (blank : trim text = []) :
    (layout widen widens).Lines limits ⟨number, text⟩ ⟨number, text⟩ where
  number := rfl
  blank := rfl
  inert := rfl
  indent := by simp [Line.isBlank, Line.content, blank]
  reading := by simp [Line.isInert, Line.isBlank, Line.content, blank]

private theorem lines_indented [CharacterNames] :
    (layout widen widens).Lines limits ⟨number, text⟩
      ⟨number, List.replicate (widen (Text.indent text)) ' ' ++ trimStart text⟩ := by
  have content : trim (List.replicate (widen (Text.indent text)) ' ' ++ trimStart text) = trim text :=
    (Text.trim_append_blank blank_of_mem_replicate).trans Text.trim_trimStart
  have indent : Text.indent (List.replicate (widen (Text.indent text)) ' ' ++ trimStart text) =
      widen (Text.indent text) := by
    rw [Text.indent_append blank_of_mem_replicate Text.clear_trimStart, List.length_replicate]
  refine ⟨rfl, ?_, ?_, fun _ => indent, fun _ => ?_⟩
  · simp only [Line.isBlank, Line.content, content]
  · simp only [Line.isInert, Line.isBlank, Line.content, content]
  · simp only [Line.content, content]
    exact .of_eq (fun _ _ => Iff.rfl) _

private theorem lines_commented [CharacterNames] {gap : Nat} {comment : List Char}
    (visible : trim text ≠ [])
    (scanned : (∃ tokens, Tokens.ofLine (trim text) = .ok tokens) ∨ (trim text).head? = some '#') :
    (layout widen widens).Lines limits ⟨number, text⟩
      ⟨number, List.replicate (widen (Text.indent text)) ' ' ++
        (trim text ++ (List.replicate gap ' ' ++ '#' :: comment))⟩ := by
  have clear : Clear isBlank (trim text ++ (List.replicate gap ' ' ++ '#' :: comment)) :=
    Text.clear_trim.append_of_ne_nil visible
  have content : trim (List.replicate (widen (Text.indent text)) ' ' ++
      (trim text ++ (List.replicate gap ' ' ++ '#' :: comment))) =
        trim text ++ (List.replicate gap ' ' ++ '#' :: trimEnd comment) := by
    rw [Text.trim_append_blank blank_of_mem_replicate, trim, Text.trimStart_of_clear clear,
      ← List.append_assoc, Text.trimEnd_append (by decide), List.append_assoc]
  have indent : Text.indent (List.replicate (widen (Text.indent text)) ' ' ++
      (trim text ++ (List.replicate gap ' ' ++ '#' :: comment))) = widen (Text.indent text) := by
    rw [Text.indent_append blank_of_mem_replicate clear, List.length_replicate]
  obtain ⟨first, rest, cut⟩ := List.exists_cons_of_ne_nil visible
  refine ⟨rfl, ?_, ?_, fun _ => indent, fun active => ?_⟩
  · simp only [Line.isBlank, Line.content]
    rw [content, cut]
    rfl
  · simp only [Line.isInert, Line.isBlank, Line.content]
    rw [content, cut]
    rfl
  · rcases scanned with ⟨tokens, scanned⟩ | comment
    · simp only [Line.content, content]
      refine readings_of_agrees (ofLine_commented scanned (fun c member => ?_) _)
      rw [List.eq_of_mem_replicate member]
      decide
    · simp [Line.isInert, Line.content, comment] at active

private theorem lines_relaid [CharacterNames] (limits : Limits) (widens : StrictMono widen)
    (number : Nat) (relaid : Relaid widen text textToo) :
    (layout widen widens).Lines limits ⟨number, text⟩ ⟨number, textToo⟩ := by
  cases relaid with
  | blank blank => exact lines_blank blank
  | indented => exact lines_indented
  | commented gap comment visible scanned => exact lines_commented visible scanned

/-! ## Programs -/

variable {code other : List Char} {scope : Scope} {start : Int} {answer : Option Answer}
  {response : Response}

private theorem forall₂_linesFrom [CharacterNames] {texts others : List (List Char)}
    (limits : Limits) (widens : StrictMono widen) (number : Nat)
    (all : List.Forall₂ (Relaid widen) texts others) :
    List.Forall₂ ((layout widen widens).Lines limits) (Source.linesFrom number texts)
      (Source.linesFrom number others) := by
  induction all generalizing number with
  | nil => exact .nil
  | cons here _ ih => exact .cons (lines_relaid limits widens number here) (ih (number + 1))

private theorem results_relaid [CharacterNames] (widens : StrictMono widen)
    (relaid : List.Forall₂ (Relaid widen) (Text.split '\n' code) (Text.split '\n' other)) :
    (layout widen widens).Results (run limits code scope start answer)
      (run limits other scope start answer) := by
  have all : List.Forall₂ ((layout widen widens).Lines limits)
      ((Source.lines code).drop start.toNat) ((Source.lines other).drop start.toNat) := by
    rw [Source.lines_eq_linesFrom, Source.lines_eq_linesFrom]
    exact List.forall₂_drop _ (forall₂_linesFrom limits widens 1 relaid)
  exact Correspondence.run_corresponds all rfl rfl

/-- Two steps show the same. -/
structure Step.Resembles (step other : Step) : Prop where
  line : other.line = step.line
  description : other.description = step.description
  scope : other.scope = step.scope
  output : other.output? = step.output?
  failure : other.isError = step.isError
  question : other.asked? = step.asked?

/-- A description does not name the place of a fault. -/
private theorem describe_congr {fault other : Fault} (cause : other.cause = fault.cause) :
    other.describe = fault.describe := by
  simp only [Fault.describe, Fault.word, Fault.message, cause]

private theorem resembles_of_steps {step other : Step}
    (steps : (layout widen widens).Steps step other) : step.Resembles other := by
  obtain ⟨number, event, scope⟩ := step
  obtain ⟨numberToo, eventToo, scopeToo⟩ := other
  obtain ⟨line, events, same⟩ := steps
  cases events with
  | same => exact ⟨line, rfl, same, rfl, rfl, rfl⟩
  | failed cause =>
    exact ⟨line, congrArg Text.ofString (describe_congr cause), same, rfl, rfl, rfl⟩

/-- A program that is laid out anew is run as before: it returns the same error and steps that
    show the same. -/
theorem run_relaid [CharacterNames] (widens : StrictMono widen)
    (relaid : List.Forall₂ (Relaid widen) (Text.split '\n' code) (Text.split '\n' other))
    (returns : run limits code scope start answer = .ok response) :
    ∃ again, run limits other scope start answer = .ok again ∧
      again.error.map Fault.describe = response.error.map Fault.describe ∧
        List.Forall₂ Step.Resembles response.trace again.trace := by
  have results := @results_relaid limits widen code other scope start answer _ widens relaid
  rw [returns] at results
  generalize run limits other scope start answer = result at results
  cases results with
  | @returned _ again steps error =>
    refine ⟨again, rfl, ?_, steps.imp fun _ _ => resembles_of_steps⟩
    generalize response.error = failed at error
    generalize again.error = failedToo at error
    cases error with
    | none => rfl
    | some cause => exact congrArg some (describe_congr cause)

section
attribute [local instance] CharacterNames.unnamed

/-- A loop with a deeper body and a comment that looks like a string and a parenthesis. -/
theorem run_relaid_deeper_body :
    ∃ again, run ⟨20, 5⟩ "for i in range(1):\n        print(i)  # '(".toList [] 0 none = .ok again ∧
      again.error.map Fault.describe = none ∧
        List.Forall₂ Step.Resembles
          [⟨1, .looping 1, []⟩, ⟨1, .iteration "i" 0, [("i", .int 0)]⟩,
            ⟨2, .printed "0", [("i", .int 0)]⟩] again.trace := by
  have header : Relaid (4 * ·) "for i in range(1):".toList "for i in range(1):".toList :=
    .indented (by decide +kernel)
  have body : Relaid (4 * ·) "\t print(i) ".toList "        print(i)  # '(".toList :=
    .commented 2 " '(".toList (by decide +kernel)
      (.inl ⟨⟨[⟨.name "print", 1⟩, ⟨.leftParen, 6⟩, ⟨.name "i", 7⟩, ⟨.rightParen, 8⟩], 9⟩,
        by decide +kernel⟩)
  exact @run_relaid ⟨20, 5⟩ (4 * ·) "for i in range(1):\n\t print(i) ".toList
    "for i in range(1):\n        print(i)  # '(".toList [] 0 none
    ⟨[⟨1, .looping 1, []⟩, ⟨1, .iteration "i" 0, [("i", .int 0)]⟩,
      ⟨2, .printed "0", [("i", .int 0)]⟩], none⟩ _
    (fun _ _ less => Nat.mul_lt_mul_of_pos_left less (by decide)) (.cons header (.cons body .nil))
    (by decide +kernel)

end

end StepTrace
