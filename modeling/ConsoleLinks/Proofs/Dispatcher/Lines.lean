/-
Lines handed over in a row: what one line does to a dispatcher, carried
along a list of lines. The customizers never change, there is one result
for each line, and each result is what its handler makes of it
(`handled_of_mem_processLines`).

Consumed by the order law (`Undisputed.lean`) and by the filter
(`Proofs/Filter/Lines.lean`).
-/
import ConsoleLinks.Proofs.Dispatcher.Ownership

namespace ConsoleLinks.Dispatcher

theorem processLines_cons (d : Dispatcher) (line : String) (rest : List String) :
    d.processLines (line :: rest)
      = (((d.processLine line).1.processLines rest).1,
         (d.processLine line).2 :: ((d.processLine line).1.processLines rest).2) :=
  rfl

/-- Lines in a row are processed as the first of them and then the rest. -/
theorem processLines_append (d : Dispatcher) (front back : List String) :
    d.processLines (front ++ back)
      = (((d.processLines front).1.processLines back).1,
         (d.processLines front).2 ++ ((d.processLines front).1.processLines back).2) := by
  induction front generalizing d with
  | nil => rfl
  | cons line front ih =>
      rw [List.cons_append, processLines_cons, ih, processLines_cons]
      rfl

/-- An activity stands for a handler or for none. -/
theorem exists_ofOwner (d : Dispatcher) :
    ∃ last, d.activity = .ofOwner last := by
  cases h : d.activity with
  | idle => exact ⟨none, rfl⟩
  | active index => exact ⟨some index, rfl⟩

/-- In whatever state a line meets a dispatcher, its owner handles it, and
the customizers stay. -/
theorem processLine_handled (d : Dispatcher) (line : String) :
    ∃ last owner,
      Owner d.customizers (bodyOf line) last owner
        ∧ Handled d.customizers line owner (d.processLine line).2
        ∧ (d.processLine line).1 = ⟨d.customizers, .ofOwner owner⟩ := by
  obtain ⟨last, hact⟩ := d.exists_ofOwner
  exact ⟨last, processLine_follows hact line⟩

theorem customizers_processLine (d : Dispatcher) (line : String) :
    (d.processLine line).1.customizers = d.customizers := by
  obtain ⟨last, owner, -, -, hnext⟩ := d.processLine_handled line
  rw [hnext]

/-- Calls change nothing about the customizers. -/
theorem customizers_run (d : Dispatcher) (calls : List Call) :
    (d.run calls).1.customizers = d.customizers := by
  induction calls generalizing d with
  | nil => rfl
  | cons c rest ih =>
      rw [run_cons]
      refine (ih _).trans ?_
      cases hline : c.line? with
      | some line =>
          rw [call_of_line d hline]
          exact customizers_processLine d line
      | none =>
          rw [eq_reset_of_line?_eq_none hline]
          rfl

/-- Lines have one result each. -/
theorem length_processLines (d : Dispatcher) (lines : List String) :
    (d.processLines lines).2.length = lines.length := by
  induction lines generalizing d with
  | nil => rfl
  | cons line rest ih => rw [processLines_cons, List.length_cons, ih, List.length_cons]

/-- Every result is what some handler makes of one of the lines. -/
theorem handled_of_mem_processLines {d : Dispatcher} {lines : List String}
    {processed : ProcessedLine} (h : processed ∈ (d.processLines lines).2) :
    ∃ line ∈ lines, ∃ owner, Handled d.customizers line owner processed := by
  induction lines generalizing d with
  | nil => cases h
  | cons line rest ih =>
      rw [processLines_cons] at h
      rcases List.mem_cons.1 h with heq | h
      · obtain ⟨last, owner, -, hhandled, -⟩ := d.processLine_handled line
        rw [heq]
        exact ⟨line, List.mem_cons_self .., owner, hhandled⟩
      · obtain ⟨line', hmem, owner, hhandled⟩ := ih h
        rw [customizers_processLine] at hhandled
        exact ⟨line', List.mem_cons_of_mem line hmem, owner, hhandled⟩

end ConsoleLinks.Dispatcher
