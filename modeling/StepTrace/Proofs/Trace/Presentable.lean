import StepTrace.Proofs.Presentable
import StepTrace.Proofs.Trace.Places
import StepTrace.Trace.Document

/-!
# Every trace is presentable

A run that begins with presentable variables keeps them presentable: an assignment shows its
value before it sets it, the header of a loop shows its count before the variable of the loop
is set to anything less, and an answer is presentable by itself. So the service can report
every such run (`run_presentable`).
-/

namespace StepTrace

open Machine

variable {limits : Limits} {lines : List Line} {config next : Config}
  {response : Response}

/-! ## Turns -/

/-- What the machine keeps: its variables and those of its steps are presentable, and so are the
    counts of the loops that are open. -/
structure Machine.Config.Presentable (config : Config) : Prop where
  scope : config.scope.Presentable
  trace : PresentableTrace config.trace
  counts : ∀ loop ∈ config.loops, (Text.decimal? loop.count).isSome = true

theorem presentable_effect [CharacterNames] {statement : Statement} {line : List Char}
    {before after : Scope} {event : Event} (presentable : before.Presentable)
    (reads : Statement.ofLine line = .ok statement)
    (does : Run.effect limits before statement = .ok (event, after)) : after.Presentable := by
  cases statement with
  | assignment target expr =>
    obtain ⟨value, valued, shown, written, -, rfl⟩ := Run.effect_assignment.mp does
    have literals := Statement.presentable_of_ofLine reads expr rfl
    exact presentable.set ((literals.eval presentable valued).presentable written)
  | question =>
    obtain ⟨-, -, -, -, -, rfl⟩ := Run.effect_question.mp does
    exact presentable
  | print =>
    obtain ⟨-, -, -, -, -, rfl⟩ := Run.effect_print.mp does
    exact presentable
  | loop =>
    obtain ⟨-, -, -, -, -, rfl⟩ := Run.effect_loop.mp does
    exact presentable

namespace Machine.Config.Presentable

theorem after {event : Event} {scope : Scope} (presentable : config.Presentable)
    (shown : scope.Presentable) : (config.after event scope).Presentable where
  scope := shown
  trace := List.forall_mem_append.mpr ⟨presentable.trace, by simpa using shown⟩
  counts := presentable.counts

theorem at_cursor {cursor : Nat} (presentable : config.Presentable) :
    Config.Presentable { config with cursor } :=
  { presentable with }

/-- The index of a time of a loop is less than its count. -/
theorem bound {loop : OpenLoop} (presentable : config.Presentable)
    (counted : (Text.decimal? loop.count).isSome = true) (more : loop.next < loop.count) :
    (config.bound loop).Presentable :=
  presentable.scope.set (.int (Text.length_toDigits_of_decimal? counted (by simpa using more.le)))

theorem enter {loop : OpenLoop} {outer : List OpenLoop} (presentable : config.Presentable)
    (counted : (Text.decimal? loop.count).isSome = true) (more : loop.next < loop.count)
    (counts : ∀ other ∈ outer, (Text.decimal? other.count).isSome = true) :
    (config.enter loop outer).Presentable where
  scope := presentable.bound counted more
  trace := List.forall_mem_append.mpr
    ⟨presentable.trace, by simpa using presentable.bound counted more⟩
  counts := List.forall_mem_cons.mpr ⟨counted, counts⟩

theorem turn [CharacterNames] (presentable : config.Presentable)
    (moves : Moves limits lines config next) : next.Presentable := by
  cases moves with
  | skip => exact presentable.at_cursor
  | perform comes _ does | idle comes does =>
    exact (presentable.after (presentable_effect presentable.scope comes.reads does)).at_cursor
  | @begin line var limit text count scope comes does runs =>
    have header : (config.after (.looping count) scope).Presentable :=
      presentable.after (presentable_effect presentable.scope comes.reads does)
    obtain ⟨value, -, times, counted, same, -⟩ := Run.effect_loop.mp does
    obtain rfl := Event.looping.inj same
    exact header.enter (Run.loopCount_shown counted runs) runs presentable.counts
  | @again loop outer ends more =>
    obtain ⟨loops, -⟩ := Config.bodyEnd?_eq_some.mp ends
    have counts := presentable.counts
    rw [loops] at counts
    obtain ⟨counted, others⟩ := List.forall_mem_cons.mp counts
    exact presentable.enter counted more others
  | @leave loop outer ends =>
    obtain ⟨loops, -⟩ := Config.bodyEnd?_eq_some.mp ends
    exact { presentable with
      counts := fun other around => presentable.counts other (by simp [loops, around]) }

theorem refuse {place : Nat} {scope : Scope} {failure : Failure} (presentable : config.Presentable)
    (shown : scope.Presentable) (refused : config.refuse place scope failure = .ok response) :
    PresentableTrace response.trace := by
  obtain ⟨fault, -, rfl⟩ := Config.refuse_eq_ok.mp refused
  exact List.forall_mem_append.mpr ⟨presentable.trace, by simpa using shown⟩

theorem stop [CharacterNames] {result : Except Abort Response} (presentable : config.Presentable)
    (stops : Stops limits lines config result) (returns : result = .ok response) :
    PresentableTrace response.trace := by
  cases stops with
  | finished =>
    obtain rfl := Except.ok.inj returns
    exact presentable.trace
  | asked comes does =>
    obtain rfl := Except.ok.inj returns
    exact (presentable.after (presentable_effect presentable.scope comes.reads does)).trace
  | full | unread | undone | crowded => exact presentable.refuse presentable.scope returns
  | @cut loop outer ends more =>
    obtain ⟨loops, -⟩ := Config.bodyEnd?_eq_some.mp ends
    have counted := presentable.counts loop (by simp [loops])
    exact presentable.refuse (presentable.bound counted more) returns

end Machine.Config.Presentable

/-! ## Runs -/

theorem presentable_entered {scope : Scope} (presentable : scope.Presentable)
    (answer : Option Answer) : (entered scope answer).Presentable := by
  cases answer with
  | none => exact presentable
  | some given => exact presentable.set (Answer.value_presentable given.text)

/-- The variables of every step are presentable. -/
theorem presentableTrace_of_run [CharacterNames] {code : List Char} {scope : Scope} {start : Int}
    {answer : Option Answer} (presentable : scope.Presentable)
    (returns : run limits code scope start answer = .ok response) :
    PresentableTrace response.trace := by
  obtain ⟨-, config, reaches, stops⟩ := ends_of_run_eq_ok returns
  have begins : (entry start.toNat (entered scope answer)).Presentable :=
    ⟨presentable_entered presentable answer, by simp [entry, PresentableTrace], by simp [entry]⟩
  have kept := reaches.invariant (fun _ => Config.Presentable.turn) begins
  exact kept.stop stops rfl

/-! ## Documents -/

theorem Event.presentable_fields (event : Event) :
    ∀ field ∈ event.fields, Presentable field.2 := by
  cases event with
  | assigned | looping | iteration => simp [fields]
  | printed output => simpa [fields] using Presentable.str output
  | awaiting target prompt => simpa [fields] using ⟨Presentable.bool true, Presentable.str target⟩
  | failed fault => simpa [fields] using Presentable.bool true

theorem Step.presentable_toValue {step : Step} (presentable : step.scope.Presentable)
    (short : (Nat.toDigits 10 step.line).length ≤ Text.digitLimit) : Presentable step.toValue := by
  refine .dict ?_
  simp only [List.forall_mem_cons]
  exact ⟨.int short, .str step.description, .dict presentable, step.event.presentable_fields⟩

theorem Response.presentable_toValue (presentable : PresentableTrace response.trace)
    (short : ∀ step ∈ response.trace, (Nat.toDigits 10 step.line).length ≤ Text.digitLimit) :
    Presentable response.toValue := by
  have error : Presentable (response.error.elim .null fun fault => .str fault.describe) := by
    cases response.error with
    | none => exact .null
    | some fault => exact .str fault.describe
  refine .dict ?_
  simp only [List.forall_mem_cons, List.not_mem_nil, false_implies, implies_true, and_true]
  refine ⟨.list (List.forall_mem_map.mpr fun step member => ?_), error⟩
  exact step.presentable_toValue (presentable step member) (short step member)

/-- A run that begins with presentable variables is reported as it is. -/
theorem Service.report_of_run [CharacterNames] {code : String} {scope : Scope} {start : Int}
    {answer : Option Answer}
    {settings : List (Text × Value)} (accepted : limitsOf settings = .ok limits)
    (presentable : scope.Presentable)
    (returns : run limits code.toList scope start answer = .ok response) :
    report ⟨code, scope, start, answer, settings⟩ = .ran response := by
  have clear := traceObstacle?_eq_none_iff.mpr (presentableTrace_of_run presentable returns)
  simp only [report, accepted, returns, clear]

/-- Whatever a run returns that begins with presentable variables is presentable: all variables
    of all its steps, and, unless the program has so many lines that their numbers are too long,
    the whole response. So the service reports the run as it is. -/
theorem run_presentable [CharacterNames] {limits : Limits} {code : List Char} {scope : Scope}
    {start : Int} {answer : Option Answer} {response : Response}
    (presentable : ∀ setting ∈ scope, Presentable setting.2)
    (returns : run limits code scope start answer = .ok response) :
    (∀ step ∈ response.trace, ∀ setting ∈ step.scope, Presentable setting.2) ∧
      ((Nat.toDigits 10 (Source.lines code).length).length ≤ Text.digitLimit →
        Presentable response.toValue) ∧
      ∀ settings, Service.limitsOf settings = .ok limits →
        Service.report ⟨String.ofList code, scope, start, answer, settings⟩ = .ran response := by
  have shown := presentableTrace_of_run presentable returns
  refine ⟨shown, fun countable => ?_, fun settings accepted => ?_⟩
  · have counted : (Text.decimal? (Source.lines code).length).isSome = true := by
      rw [Text.decimal?_natCast countable]
      rfl
    refine Response.presentable_toValue shown fun step member => ?_
    exact Text.length_toDigits_of_decimal? counted (run_placed returns step member).inside
  · exact Service.report_of_run accepted presentable (by rwa [String.toList_ofList])

section
attribute [local instance] CharacterNames.unnamed

/-- A program that copies a list, divides and then fails, because the answer, a number beyond
    all that can be represented, has been kept as a text. -/
theorem run_presentable_copied_list :
    (∀ setting ∈ [(("a" : Text), Value.list [.int 1, .null])], Presentable setting.2) ∧
      ∃ response,
        run Limits.standard "b = a\nc = 1 / 4\nprint(-t)".toList [("a", .list [.int 1, .null])] 0
          (some ⟨"t", "1e999"⟩) = .ok response ∧ response.trace.length = 3 ∧
        (∀ step ∈ response.trace, ∀ setting ∈ step.scope, Presentable setting.2) ∧
        Presentable response.toValue ∧
        Service.report ⟨String.ofList "b = a\nc = 1 / 4\nprint(-t)".toList,
          [("a", .list [.int 1, .null])], 0, some ⟨"t", "1e999"⟩, []⟩ = .ran response := by
  have presentable :
      ∀ setting ∈ [(("a" : Text), Value.list [.int 1, .null])], Presentable setting.2 :=
    (Service.entriesObstacle?_eq_none_iff _).mp (by decide +kernel)
  have returns : run Limits.standard "b = a\nc = 1 / 4\nprint(-t)".toList
      [("a", .list [.int 1, .null])] 0 (some ⟨"t", "1e999"⟩) =
        .ok ⟨[⟨1, .assigned "b" "[1, null]", [("a", .list [.int 1, .null]), ("t", .str "1e999"),
            ("b", .list [.int 1, .null])]⟩,
          ⟨2, .assigned "c" "0.25", [("a", .list [.int 1, .null]), ("t", .str "1e999"),
            ("b", .list [.int 1, .null]), ("c", .float (.finite false 1021 0))]⟩,
          ⟨3, .failed (Fault.atColumn (.signedOperand .minus .str) 7), [("a", .list [.int 1, .null]),
            ("t", .str "1e999"), ("b", .list [.int 1, .null]),
            ("c", .float (.finite false 1021 0))]⟩],
          some (Fault.atColumn (.signedOperand .minus .str) 7)⟩ := by decide +kernel
  obtain ⟨shown, document, reported⟩ := run_presentable presentable returns
  exact ⟨presentable, _, returns, rfl, shown, document (by decide +kernel), reported [] rfl⟩

end

end StepTrace
