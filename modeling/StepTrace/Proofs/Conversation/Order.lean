import StepTrace.Proofs.Conversation.Pauses

/-!
# The order of a conversation

A conversation comes to its end whoever is asked, and no line asks twice. The answers that were
given in advance are used first, one for each pause, and only after them each question is put to
whoever is there to reply (`hold_orderly`).
-/

namespace StepTrace

/-- Someone who replies to a prompt, knowing the prompts before it. -/
abbrev Asker := List Text → Text → Text

/-- The replies to prompts that come after earlier ones. -/
def Asker.replies (asker : Asker) (earlier : List Text) : List Text → List Text
  | [] => []
  | prompt :: later => asker earlier prompt :: asker.replies (earlier ++ [prompt]) later

theorem Asker.length_replies (asker : Asker) (earlier prompts : List Text) :
    (asker.replies earlier prompts).length = prompts.length := by
  induction prompts generalizing earlier with
  | nil => rfl
  | cons prompt later ih => rw [replies, List.length_cons, ih, List.length_cons]

namespace Conversation

variable {limits : Limits} {code : List Char} {answers texts : List Text}
  {response next : Response} {place : Continuation} {asks : Bool} {reply : Reply}
  {replies : List Reply}

/-- The replies to the questions of a program, the answers given in advance first. -/
def queue (answers texts : List Text) : List Reply :=
  answers.map (⟨·, false⟩) ++ texts.map (⟨·, true⟩)

theorem queue_cons (text : Text) (answers texts : List Text) :
    queue (text :: answers) texts = ⟨text, false⟩ :: queue answers texts := rfl

theorem queue_nil_cons (text : Text) (texts : List Text) :
    queue [] (text :: texts) = ⟨text, true⟩ :: queue [] texts := rfl

theorem map_text_queue (answers texts : List Text) :
    (queue answers texts).map Reply.text = answers ++ texts := by
  simp [queue, Function.comp_def]

/-! ## The questions that are asked -/

theorem prompts_asking (reply : Reply) (response : Response) (parting : Parting)
    (later : List Exchange) :
    prompts ⟨asking reply response ++ later, parting⟩ =
      (if reply.typed then [promptOf response] else []) ++ prompts ⟨later, parting⟩ := by
  unfold asking prompts
  by_cases typed : reply.typed = true <;> simp [typed]

theorem prompts_ran (response : Response) (parting : Parting) (later : List Exchange) :
    prompts ⟨.ran response :: later, parting⟩ = prompts ⟨later, parting⟩ := rfl

/-- The questions that are asked after a reply. -/
def promptsAfter [CharacterNames] (limits : Limits) (code : List Char) (asks : Bool)
    (replies : List Reply) (place : Continuation) (text : Text) : List Text :=
  match run limits code place.scope place.start (some ⟨place.target, text⟩) with
  | .error _ => []
  | .ok next => (goOn limits code asks replies next).prompts

theorem prompts_goOn_cons [CharacterNames] (goesOn : response.continuation? = some place) :
    (goOn limits code asks (reply :: replies) response).prompts =
      (if reply.typed then [promptOf response] else []) ++
        promptsAfter limits code asks replies place reply.text := by
  unfold promptsAfter
  cases returned : run limits code place.scope place.start (some ⟨place.target, reply.text⟩) with
  | error abort =>
    have alone := prompts_asking reply response (.aborted abort) []
    rw [goOn_of_aborted asks reply replies goesOn returned]
    rwa [List.append_nil] at alone
  | ok next => rw [goOn_of_resumed asks reply replies goesOn returned, prompts_asking, prompts_ran]

/-! ## Replies to the questions -/

/-- Someone replies to all questions from a response on, and each reply is decided by the
    questions up to it. By induction on how many lines are left, since every run goes on farther
    down. -/
theorem exists_replies [CharacterNames] (limits : Limits) (code : List Char) (asker : Asker)
    (left : Nat) (answers earlier : List Text) (response : Response)
    (near : ∀ place, response.continuation? = some place →
      place.start ≤ (Source.lines code).length ∧ (Source.lines code).length < place.start + left) :
    ∃ typed, ∀ other,
      other = asker.replies earlier (goOn limits code true (queue answers other) response).prompts ↔
        other = typed := by
  induction left generalizing answers earlier response with
  | zero =>
    have stopped : response.continuation? = none := by
      refine Option.eq_none_iff_forall_not_mem.mpr fun place goesOn => ?_
      have := near place goesOn
      omega
    refine ⟨[], fun other => ?_⟩
    rw [goOn_of_stopped _ _ stopped]
    exact Iff.rfl
  | succ left ih =>
    cases goesOn : response.continuation? with
    | none =>
      refine ⟨[], fun other => ?_⟩
      rw [goOn_of_stopped _ _ goesOn]
      exact Iff.rfl
    | some place =>
      have settled (rest earlier : List Text) (text : Text) : ∃ typed, ∀ other,
          other = asker.replies earlier
            (promptsAfter limits code true (queue rest other) place text) ↔ other = typed := by
        unfold promptsAfter
        cases returned : run limits code place.scope place.start (some ⟨place.target, text⟩) with
        | error abort => exact ⟨[], fun other => Iff.rfl⟩
        | ok next =>
          refine ih rest earlier next fun after goesOnAfter => ?_
          have further := continuation_placed returned goesOnAfter
          have := near place goesOn
          omega
      cases answers with
      | cons text rest =>
        obtain ⟨typed, only⟩ := settled rest earlier text
        refine ⟨typed, fun other => ?_⟩
        rw [← only other, queue_cons, prompts_goOn_cons goesOn]
        exact Iff.rfl
      | nil =>
        -- The first reply is the one to this question, whatever else is typed.
        obtain ⟨typed, only⟩ := settled [] (earlier ++ [promptOf response])
          (asker earlier (promptOf response))
        refine ⟨asker earlier (promptOf response) :: typed, fun other => ?_⟩
        cases other with
        | nil => simp [queue, goOn_nil true goesOn, prompts, Asker.replies]
        | cons first rest =>
          rw [queue_nil_cons, prompts_goOn_cons goesOn, if_pos rfl, List.singleton_append,
            Asker.replies, List.cons.injEq, List.cons.injEq]
          refine and_congr_right fun same => ?_
          rw [same]
          exact only rest

/-- Whoever can be asked has replied to the questions in their order. -/
def Replied [CharacterNames] (limits : Limits) (code : List Char) (answers : List Text)
    (asker : Option Asker) (typed : Option (List Text)) : Prop :=
  typed = asker.map fun asker => asker.replies [] (hold limits code answers typed).prompts

theorem existsUnique_replied [CharacterNames] (limits : Limits) (code : List Char)
    (answers : List Text) (asker : Option Asker) :
    ∃! typed, Replied limits code answers asker typed := by
  cases asker with
  | none => exact ⟨none, rfl, fun typed replied => replied⟩
  | some asker =>
    have some_of_replied : ∀ typed, Replied limits code answers (some asker) typed →
        ∃ texts, typed = some texts := fun typed replied => ⟨_, replied⟩
    obtain ⟨texts, only⟩ : ∃ texts, ∀ other,
        Replied limits code answers (some asker) (some other) ↔ other = texts := by
      unfold Replied hold
      simp only [Option.map_some, Option.some.injEq]
      cases returned : run limits code [] 0 none with
      | error abort => exact ⟨[], fun other => Iff.rfl⟩
      | ok first =>
        refine exists_replies limits code asker ((Source.lines code).length + 1) answers [] first ?_
        intro place goesOn
        have := continuation_placed returned goesOn
        omega
    refine ⟨some texts, (only texts).mpr rfl, fun typed replied => ?_⟩
    obtain ⟨other, rfl⟩ := some_of_replied typed replied
    rw [(only other).mp replied]

/-! ## Runs, answers and questions in their order -/

/-- What happens when runs follow one another and so many answers are given in advance: the
    questions after them are put one by one, each between its run and the next. -/
def transcript : Nat → List Response → List Exchange
  | _, [] => []
  | _, [last] => [.ran last]
  | 0, paused :: next :: later =>
    .ran paused :: .asked (promptOf paused) :: transcript 0 (next :: later)
  | given + 1, paused :: next :: later => .ran paused :: transcript given (next :: later)

/-- Each run takes up the one before it with the next reply. -/
theorem goOn_resumes [CharacterNames] (limits : Limits) (code : List Char) (asks : Bool)
    (replies : List Reply) (response : Response) (k : Nat) (paused next : Response)
    (isOne : (response :: (goOn limits code asks replies response).responses)[k]? = some paused)
    (follows : (response :: (goOn limits code asks replies response).responses)[k + 1]? = some next) :
    ∃ place reply, paused.continuation? = some place ∧ replies[k]? = some reply ∧
      run limits code place.scope place.start (some ⟨place.target, reply.text⟩) = .ok next := by
  fun_induction goOn limits code asks replies response generalizing k with
  | case1 | case2 | case3 => simp [responses] at follows
  | case4 => simp [responses_asking_nil] at follows
  | case5 response place goesOn reply rest following returns later ih =>
    rw [responses_asking, responses_ran] at isOne follows
    cases k with
    | zero =>
      obtain rfl := Option.some.inj isOne
      obtain rfl := Option.some.inj follows
      exact ⟨place, reply, goesOn, rfl, returns⟩
    | succ k => exact ih k isOne follows

/-- The answers given in advance are used first, and after them each reply follows its
    question. -/
theorem goOn_transcript [CharacterNames] (queued : queue answers texts = replies)
    (settled : (goOn limits code asks replies response).parting = .settled) :
    .ran response :: (goOn limits code asks replies response).exchanges =
      transcript answers.length (response :: (goOn limits code asks replies response).responses) := by
  fun_induction goOn limits code asks replies response generalizing answers texts with
  | case1 | case3 => simp [responses, transcript]
  | case2 | case4 => cases settled
  | case5 response place goesOn reply rest next returns later =>
    rename_i ih
    rw [responses_asking, responses_ran]
    cases answers with
    | nil =>
      cases texts with
      | nil => cases queued
      | cons text others =>
        obtain ⟨rfl, same⟩ := List.cons.inj queued
        exact congrArg _ (congrArg _ (@ih [] others same settled))
    | cons text others =>
      obtain ⟨rfl, same⟩ := List.cons.inj queued
      exact congrArg _ (ih same settled)

/-- A program stays paused only where nobody can be asked and no answer is left. -/
theorem goOn_rests [CharacterNames]
    (settled : (goOn limits code asks replies response).parting = .settled) {last : Response}
    (isLast : (response :: (goOn limits code asks replies response).responses).getLast? = some last)
    (goesOn : last.continuation?.isSome = true) :
    asks = false ∧ (goOn limits code asks replies response).responses.length = replies.length := by
  fun_induction goOn limits code asks replies response with
  | case1 replies response stopped =>
    have same : response = last := by simpa [responses] using isLast
    rw [← same, stopped] at goesOn
    cases goesOn
  | case2 | case4 => cases settled
  | case3 => exact ⟨by simpa using ‹¬asks = true›, rfl⟩
  | case5 response place paused reply rest next returns later ih =>
    rw [responses_asking, responses_ran] at isLast ⊢
    obtain ⟨unasked, all⟩ := ih settled isLast
    exact ⟨unasked, congrArg (· + 1) all⟩

/-- A question without a reply is one question more than there are replies. -/
theorem length_prompts_of_unanswered [CharacterNames] (queued : queue answers texts = replies)
    (unanswered : (goOn limits code asks replies response).parting = .unanswered) :
    (goOn limits code asks replies response).prompts.length = texts.length + 1 := by
  fun_induction goOn limits code asks replies response generalizing answers texts with
  | case1 | case3 | case4 => cases unanswered
  | case2 =>
    obtain ⟨-, none⟩ := List.append_eq_nil_iff.mp queued
    rw [List.map_eq_nil_iff.mp none]
    rfl
  | case5 response place goesOn reply rest next returns later =>
    rename_i ih
    rw [prompts_asking, prompts_ran]
    cases answers with
    | nil =>
      cases texts with
      | nil => cases queued
      | cons text others =>
        obtain ⟨rfl, same⟩ := List.cons.inj queued
        exact congrArg (· + 1) (@ih [] others same unanswered)
    | cons text others =>
      obtain ⟨rfl, same⟩ := List.cons.inj queued
      exact ih same unanswered

theorem asks_of_unanswered [CharacterNames]
    (unanswered : (goOn limits code asks replies response).parting = .unanswered) : asks = true := by
  fun_induction goOn limits code asks replies response with
  | case1 | case3 | case4 => cases unanswered
  | case2 => assumption
  | case5 response place goesOn reply rest next returns later ih => exact ih unanswered

/-! ## Whole conversations -/

/-- The order in which a conversation goes, with the answers given in advance and the replies
    that were typed, if anyone could be asked. -/
structure Orderly [CharacterNames] (limits : Limits) (code : List Char) (answers : List Text)
    (typed : Option (List Text)) (held : Conversation) : Prop where
  settled : held.parting = .settled
  /-- The first run begins at the first line. -/
  begins : ∃ first, held.responses.head? = some first ∧ run limits code [] 0 none = .ok first
  /-- Each pause is answered by the next answer or, when they are used up, the next reply. -/
  resumes : ∀ k paused next, held.responses[k]? = some paused →
    held.responses[k + 1]? = some next →
      ∃ place text, paused.continuation? = some place ∧
        (answers ++ typed.getD [])[k]? = some text ∧
        run limits code place.scope place.start (some ⟨place.target, text⟩) = .ok next
  /-- The last run stays paused only where nobody can be asked and no answer is left. -/
  rests : ∀ last, held.responses.getLast? = some last → last.continuation?.isSome = true →
    typed = none ∧ held.responses.length = answers.length + 1
  /-- Nobody is asked before the answers are used up, and then the question is that of the
      pause. -/
  asks : held.exchanges = transcript answers.length held.responses
  increase : (pauses held.responses).Pairwise (· < ·)
  inside : ∀ line ∈ pauses held.responses, 0 < line ∧ line ≤ (Source.lines code).length
  runs : held.responses.length ≤ 1 + (Source.lines code).length
  /-- No line asks twice. -/
  once : ((held.response.trace.filter fun step => step.asked?.isSome).map Step.line).Pairwise (· < ·)
  joined : held.response.trace = held.responses.flatMap Response.trace

section
variable {typed : Option (List Text)} {asker : Option Asker} {first : Response}

theorem hold_of_returned [CharacterNames] (answers : List Text) (typed : Option (List Text))
    (returns : run limits code [] 0 none = .ok first) :
    hold limits code answers typed =
      { goOn limits code typed.isSome (queue answers (typed.getD [])) first with
        exchanges := .ran first ::
          (goOn limits code typed.isSome (queue answers (typed.getD [])) first).exchanges } := by
  unfold hold
  rw [returns]
  rfl

/-- Nobody who replies to every question leaves one without a reply. -/
theorem not_unanswered [CharacterNames] (replied : Replied limits code answers asker typed) :
    (hold limits code answers typed).parting ≠ .unanswered := by
  intro unanswered
  cases returned : run limits code [] 0 none with
  | error abort => simp [hold, returned] at unanswered
  | ok first =>
    have prompts : (hold limits code answers typed).prompts =
        (goOn limits code typed.isSome (queue answers (typed.getD [])) first).prompts := by
      rw [hold_of_returned answers typed returned, prompts_ran]
    rw [hold_of_returned answers typed returned] at unanswered
    cases asker with
    | none =>
      obtain rfl : typed = none := replied
      have asks := asks_of_unanswered unanswered
      cases asks
    | some asker =>
      obtain ⟨texts, rfl⟩ : ∃ texts, typed = some texts := ⟨_, replied⟩
      have counted := length_prompts_of_unanswered rfl unanswered
      have all := congrArg List.length (Option.some.inj replied)
      rw [Asker.length_replies, prompts, counted] at all
      simp at all

/-- Where every question has its reply, or nobody can be asked, a conversation is settled unless a
    run aborts. -/
theorem settled_of_replied [CharacterNames] (replied : Replied limits code answers asker typed)
    (comesAbout : ∀ abort, (hold limits code answers typed).parting ≠ .aborted abort) :
    (hold limits code answers typed).parting = .settled := by
  cases parting : (hold limits code answers typed).parting with
  | settled => rfl
  | unanswered => exact absurd parting (not_unanswered replied)
  | aborted abort => exact absurd parting (comesAbout abort)

/-- A conversation that is settled is orderly. -/
theorem orderly_of_settled [CharacterNames]
    (settled : (hold limits code answers typed).parting = .settled) :
    Orderly limits code answers typed (hold limits code answers typed) := by
  obtain ⟨first, rest, runs, returns, chain⟩ := responses_chain settled
  have returned := returned_of_chain ⟨_, _, _, returns⟩ chain
  have increase := (pauses_increase chain).pairwise
  have inside := pauses_inside returned
  have whole := hold_of_returned answers typed returns
  have later : (goOn limits code typed.isSome (queue answers (typed.getD [])) first).responses =
      rest := by
    rw [whole, responses_ran] at runs
    exact (List.cons.inj runs).2
  have parting : (goOn limits code typed.isSome (queue answers (typed.getD [])) first).parting =
      .settled := by rwa [whole] at settled
  refine
    { settled
      begins := ⟨first, by rw [runs]; rfl, returns⟩
      resumes := ?_
      rests := ?_
      asks := ?_
      increase := by rwa [runs]
      inside := by rwa [runs]
      runs := ?_
      once := ?_
      joined := rfl }
  · intro k paused next isOne follows
    rw [runs, ← later] at isOne follows
    obtain ⟨place, reply, goesOn, isReply, resumed⟩ := goOn_resumes _ _ _ _ _ k _ _ isOne follows
    refine ⟨place, reply.text, goesOn, ?_, resumed⟩
    rw [← map_text_queue, List.getElem?_map, isReply, Option.map_some]
  · intro last isLast goesOn
    rw [runs, ← later] at isLast ⊢
    obtain ⟨unasked, all⟩ := goOn_rests parting isLast goesOn
    have nobody : typed = none := by simpa using unasked
    refine ⟨nobody, ?_⟩
    rw [List.length_cons, all, nobody]
    simp [queue]
  · rw [runs, ← later, whole]
    exact goOn_transcript rfl parting
  · have taken := length_le_pauses chain
    have few := length_pauses_le increase inside
    rw [runs]
    omega
  · have joined : (hold limits code answers typed).response.trace =
        (first :: rest).flatMap Response.trace := by rw [← runs]; rfl
    rw [joined, asking_lines_flatMap returned]
    exact increase

/-- A conversation comes to its end, whoever is asked, in one way only. Unless a run aborts, it
    goes on line by line, and so no line asks twice. The answers are used one by one, then the
    replies to the questions of the pauses after them, and what is recorded is what the runs have
    recorded one after the other. -/
theorem hold_orderly [CharacterNames] (limits : Limits) (code : List Char) (answers : List Text)
    (asker : Option Asker) :
    (∃! typed, Replied limits code answers asker typed) ∧
      ∀ typed, Replied limits code answers asker typed →
        (∀ abort, (hold limits code answers typed).parting ≠ .aborted abort) →
          Orderly limits code answers typed (hold limits code answers typed) := by
  refine ⟨existsUnique_replied limits code answers asker, fun typed replied comesAbout => ?_⟩
  exact orderly_of_settled (settled_of_replied replied comesAbout)

end

section
attribute [local instance] CharacterNames.unnamed

/-- Questions inside nested loops and after them, with one answer given in advance. The second
    question is asked with the first answer as its prompt. -/
theorem hold_orderly_nested_loops :
    ∃ typed, Replied Limits.standard
        "for i in range(2):\n  for j in range(2):\n    x = input('a')\n  y = input(x)\nz = input('c')".toList
        ["b"] (some fun earlier prompt => if earlier = [] then prompt ++ "!" else prompt) typed ∧
      typed = some [("b!" : Text), "c"] ∧
      Orderly Limits.standard
        "for i in range(2):\n  for j in range(2):\n    x = input('a')\n  y = input(x)\nz = input('c')".toList
        ["b"] typed (hold Limits.standard
          "for i in range(2):\n  for j in range(2):\n    x = input('a')\n  y = input(x)\nz = input('c')".toList
          ["b"] typed) := by
  have replied : Replied Limits.standard
      "for i in range(2):\n  for j in range(2):\n    x = input('a')\n  y = input(x)\nz = input('c')".toList
      ["b"] (some fun earlier prompt => if earlier = [] then prompt ++ "!" else prompt)
      (some [("b!" : Text), "c"]) := by
    unfold Replied
    decide +kernel
  have settled : (hold Limits.standard
      "for i in range(2):\n  for j in range(2):\n    x = input('a')\n  y = input(x)\nz = input('c')".toList
      ["b"] (some [("b!" : Text), "c"])).parting = .settled := by decide +kernel
  refine ⟨_, replied, rfl, (hold_orderly _ _ _ _).2 _ replied fun abort => ?_⟩
  rw [settled]
  nofun

end

end Conversation

end StepTrace
