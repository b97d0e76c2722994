import Mathlib.Tactic.TFAE
import StepTrace.Proofs.Run.Expansion

/-!
# The flat machine and the expansion

The machine as a function of the number of its turns. It stops for every program that is
begun at a line, and a response is that of a run exactly if it is that of the machine, and
exactly if it is that of the expansion (`run_tfae`): it makes no difference whether the bodies
of loops are copied, numbered anew and given budgets of their own, or left in their place
under one cursor, one scope and one trace.
-/

namespace StepTrace.Machine

variable {limits : Limits} {lines : List Line} {config next : Config}
  {result : Except Abort Response} {turns : Nat}

/-- What the machine comes to within so many turns. -/
def drive [CharacterNames] (limits : Limits) (lines : List Line) :
    Nat → Config → Option (Except Abort Response)
  | 0, _ => none
  | turns + 1, config =>
    match advance limits lines config with
    | .halt result => some result
    | .next config => drive limits lines turns config

theorem drive_of_stops [CharacterNames] (stops : Stops limits lines config result) :
    drive limits lines (turns + 1) config = some result := by
  rw [drive, stops.advance]

theorem drive_of_moves [CharacterNames] (moves : Moves limits lines config next) :
    drive limits lines (turns + 1) config = drive limits lines turns next := by
  rw [drive, moves.advance]

theorem ends_of_drive [CharacterNames] (driven : drive limits lines turns config = some result) :
    Ends limits lines config result := by
  induction turns generalizing config with
  | zero => cases driven
  | succ turns ih =>
    rw [drive] at driven
    cases turned : advance limits lines config with
    | next next =>
      rw [turned] at driven
      exact (ih driven).prepend (.single (advance_eq_next_iff.mp turned))
    | halt other =>
      rw [turned] at driven
      obtain rfl := Option.some.inj driven
      exact ⟨config, .refl, advance_eq_halt_iff.mp turned⟩

theorem Ends.exists_drive [CharacterNames] (ends : Ends limits lines config result) :
    ∃ turns, drive limits lines turns config = some result := by
  obtain ⟨last, reaches, stops⟩ := ends
  induction reaches using Relation.ReflTransGen.head_induction_on with
  | refl => exact ⟨1, drive_of_stops stops⟩
  | head moves _ ih =>
    obtain ⟨turns, driven⟩ := ih
    exact ⟨turns + 1, by rw [drive_of_moves moves, driven]⟩

/-- The machine stops with a result exactly if some number of turns is enough for it. -/
theorem ends_iff_exists_drive [CharacterNames] :
    Ends limits lines config result ↔ ∃ turns, drive limits lines turns config = some result :=
  ⟨Ends.exists_drive, fun ⟨_, driven⟩ => ends_of_drive driven⟩

/-- A run returns a response exactly if the expansion of its loops does, and exactly if the
    flat machine stops with it. -/
theorem run_tfae [CharacterNames] (limits : Limits) (code : List Char) (scope : Scope) (start : Int)
    (answer : Option Answer) (response : Response) :
    [run limits code scope start answer = .ok response,
      Expansion.run limits code scope start answer = .ok response,
      0 ≤ start ∧ (∀ given ∈ answer, Text.isIdentifier given.target.toList = true) ∧
        ∃ turns, drive limits (Source.lines code) turns
          (entry start.toNat (entered scope answer)) = some (.ok response)].TFAE := by
  tfae_have 1 ↔ 2 := by rw [Expansion.run_eq]
  tfae_have 1 → 3 := by
    intro returns
    obtain ⟨forward, named, -⟩ := run_eq_ok_iff.mp returns
    exact ⟨forward, named, ends_iff_exists_drive.mp (ends_of_run_eq_ok returns).2⟩
  tfae_have 3 → 1 := by
    rintro ⟨forward, named, turns, driven⟩
    exact (ends_run limits code forward named).unique (ends_iff_exists_drive.mpr ⟨turns, driven⟩)
  tfae_finish

section
attribute [local instance] CharacterNames.unnamed

/-- The third time of the inner loop is refused under its own header. -/
example : drive ⟨5, 10⟩ (Source.lines "for i in range(1):\n\n  for j in range(9):\n    #".toList) 20
    (entry 0 []) = some (.ok ⟨[⟨1, .looping 1, []⟩, ⟨1, .iteration "i" 0, [("i", .int 0)]⟩,
      ⟨3, .looping 9, [("i", .int 0)]⟩, ⟨3, .iteration "j" 0, [("i", .int 0), ("j", .int 0)]⟩,
      ⟨3, .iteration "j" 1, [("i", .int 0), ("j", .int 1)]⟩,
      ⟨3, .failed (Fault.bare (.tooManySteps 5)), [("i", .int 0), ("j", .int 2)]⟩],
      some (Fault.bare (.tooManySteps 5))⟩) := by decide +kernel

end

end StepTrace.Machine
