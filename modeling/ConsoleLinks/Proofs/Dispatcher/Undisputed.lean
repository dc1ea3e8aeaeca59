/-
Undisputed lines: bodies that all customizers who claim them would handle
in the same way. On such lines neither the order of registration nor the
lines before make a difference.

# Why it holds

Whoever the dispatcher is following, and whichever order it asks in, a
claimed body is handled by somebody who claims it, and a body that nobody
claims by nobody (`Owner`). So one line comes to the same in any two
dispatchers with the same customizers (`processLine_of_undisputed`), and
lines in a row come to what each would alone
(`processLines_of_undisputed`). Which customizer is followed afterwards is
the one reported last (`active?_processLines`), so that agrees as well.

Consumed by the order law (`Order.lean`).
-/
import ConsoleLinks.Proofs.Dispatcher.Lines

namespace ConsoleLinks

/-- Whoever claims the body makes the same of it, under the same id. -/
def Undisputed (customizers : List Customizer) (body : String) : Prop :=
  ∀ c ∈ customizers, ∀ c' ∈ customizers, ∀ done done',
    c.attempt body = some done → c'.attempt body = some done' →
      c.id = c'.id ∧ done = done'

/-- A registered customizer whose attempt succeeds leaves no body to
nobody. -/
theorem Owner.not_nobody {customizers : List Customizer} {body : String}
    {last : Option Nat} {c : Customizer} {done : Customized} (hc : c ∈ customizers)
    (hdone : c.attempt body = some done) : ¬ Owner customizers body last none := by
  intro h
  obtain ⟨index, hindex⟩ := List.getElem?_of_mem hc
  cases h with
  | nobody hnone => exact hnone index (.of_attempt hindex hdone)

/-- An undisputed line is handled in one way, by whichever of the same
customizers. -/
theorem Handled.eq_of_undisputed {customizers customizers' : List Customizer}
    {line : String} {last last' owner owner' : Option Nat}
    {processed processed' : ProcessedLine}
    (hsame : ∀ c, c ∈ customizers ↔ c ∈ customizers')
    (hundisputed : Undisputed customizers (bodyOf line))
    (howner : Owner customizers (bodyOf line) last owner)
    (howner' : Owner customizers' (bodyOf line) last' owner')
    (h : Handled customizers line owner processed)
    (h' : Handled customizers' line owner' processed') : processed = processed' := by
  cases h with
  | byCustomizer hc hdone =>
      have hmem := List.mem_of_getElem? hc
      cases h' with
      | byCustomizer hc' hdone' =>
          have hmem' := (hsame _).2 (List.mem_of_getElem? hc')
          obtain ⟨hid, heq⟩ := hundisputed _ hmem _ hmem' _ _ hdone hdone'
          rw [hid, heq]
      | byNobody => exact absurd howner' (Owner.not_nobody ((hsame _).1 hmem) hdone)
  | byNobody =>
      cases h' with
      | byCustomizer hc' hdone' =>
          have hmem' := (hsame _).2 (List.mem_of_getElem? hc')
          exact absurd howner (Owner.not_nobody hmem' hdone')
      | byNobody => rfl

namespace Dispatcher

-- ============================================================ one line

/-- After a line, the customizer that is followed is the one reported for
it. -/
theorem active?_processLine (d : Dispatcher) (line : String) :
    (d.processLine line).1.active? = (d.processLine line).2.customizer := by
  obtain ⟨last, owner, -, hhandled, hnext⟩ := d.processLine_handled line
  rw [hnext]
  exact active?_of_handled hhandled

/-- An undisputed line comes to the same in all dispatchers with the same
customizers. -/
theorem processLine_of_undisputed {d d' : Dispatcher} {line : String}
    (hsame : ∀ c, c ∈ d.customizers ↔ c ∈ d'.customizers)
    (hundisputed : Undisputed d.customizers (bodyOf line)) :
    (d.processLine line).2 = (d'.processLine line).2 := by
  obtain ⟨last, owner, howner, hhandled, -⟩ := d.processLine_handled line
  obtain ⟨last', owner', howner', hhandled', -⟩ := d'.processLine_handled line
  exact hhandled.eq_of_undisputed hsame hundisputed howner howner' hhandled'

-- ====================================================== lines in a row

/-- Undisputed lines in a row come to what each of them comes to alone, in
any dispatcher with the same customizers. -/
theorem processLines_of_undisputed {d d' : Dispatcher} {lines : List String}
    (hsame : ∀ c, c ∈ d.customizers ↔ c ∈ d'.customizers)
    (hundisputed : ∀ line ∈ lines, Undisputed d.customizers (bodyOf line)) :
    (d.processLines lines).2 = lines.map fun line => (d'.processLine line).2 := by
  induction lines generalizing d with
  | nil => rfl
  | cons line rest ih =>
      have hnext : (d.processLine line).1.customizers = d.customizers :=
        d.customizers_processLine line
      rw [processLines_cons, List.map_cons,
        processLine_of_undisputed hsame (hundisputed line (List.mem_cons_self ..))]
      refine congrArg (_ :: ·) (ih ?_ fun line' hmem => ?_)
      · rw [hnext]
        exact hsame
      · rw [hnext]
        exact hundisputed line' (List.mem_cons_of_mem line hmem)

/-- After lines in a row, the customizer that is followed is the one
reported for the last of them. -/
theorem active?_processLines (d : Dispatcher) {lines : List String}
    (hne : lines ≠ []) :
    (d.processLines lines).1.active?
      = (d.processLines lines).2.getLast?.bind (·.customizer) := by
  induction lines generalizing d with
  | nil => exact absurd rfl hne
  | cons line rest ih =>
      rw [processLines_cons]
      cases rest with
      | nil => exact d.active?_processLine line
      | cons line' rest =>
          refine (ih _ (List.cons_ne_nil line' rest)).trans ?_
          rw [processLines_cons, List.getLast?_cons_cons]

end Dispatcher

end ConsoleLinks
