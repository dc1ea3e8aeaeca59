/-
Shadowed customizers: one that stands behind its equal in the order of
registration never gets a line, so a dispatcher does as well without it.

# The simulation

Two dispatchers with different customizers count them differently, so
their activities cannot be compared. What they go by can: the customizer
being followed itself (`followed`), and for every body the first customizer
that claims it, with what it makes of it (`firstOutcome`). `Alike` says
that two dispatchers agree on both. A line comes to the same in dispatchers
that are alike and leaves them alike (`Alike.processLine`), so any calls do
(`Alike.run`).

# The shadow

Whoever claims a body, its equal in front of it claims it too, so the
search from the first never ends at a shadowed index (`Owner.unshadowed`);
and the customizer being followed was found by that search once
(`Course.unshadowed`).

Consumed by the law of the configured customizers
(`Proofs/Config/Condensed.lean`).
-/
import ConsoleLinks.Proofs.Dispatcher.Lines

namespace ConsoleLinks

namespace Dispatcher

-- ========================================================= vocabulary

/-- The customizer whose trace is being followed. -/
def followed (d : Dispatcher) : Option Customizer := d.follower?.map (·.2)

/-- The first customizer that claims the body, and what it makes of it. -/
def firstOutcome (body : String) (customizers : List Customizer) :
    Option (Customizer × Customized) :=
  customizers.findSome? fun c => (c.attempt body).map (c, ·)

/-- The same of one that is asked before the others. -/
def outcomeBehind (body : String) (first : Option Customizer)
    (customizers : List Customizer) : Option (Customizer × Customized) :=
  match first.bind fun c => (c.attempt body).map (c, ·) with
  | some outcome => some outcome
  | none => firstOutcome body customizers

/-- What is reported for a line with the given outcome. -/
def reportOf (line : String) : Option (Customizer × Customized) → ProcessedLine
  | some (c, done) => ⟨done.text ++ endingOf line, some c.id, done.target⟩
  | none => ⟨line, none, none⟩

-- ==================================================== without indices

theorem map_claimFrom (body : String) (customizers : List Customizer) (start : Nat) :
    (claimFrom body start customizers).map (fun claim => (claim.customizer, claim.outcome))
      = firstOutcome body customizers := by
  induction customizers generalizing start with
  | nil => rfl
  | cons c rest ih =>
      unfold firstOutcome at ih ⊢
      rw [List.findSome?_cons]
      cases hatt : c.attempt body with
      | some done => rw [claimFrom, hatt]; rfl
      | none => rw [claimFrom, hatt]; exact ih (start + 1)

/-- The claim that decides a body, without its index. -/
theorem map_claim? (d : Dispatcher) (body : String) :
    (d.claim? body).map (fun claim => (claim.customizer, claim.outcome))
      = outcomeBehind body d.followed d.customizers := by
  unfold claim? outcomeBehind keep? followed
  cases hfollower : d.follower? with
  | none => exact map_claimFrom body d.customizers 0
  | some entry =>
      obtain ⟨index, c⟩ := entry
      simp only [Option.map_some, Option.bind_some]
      cases hatt : c.attempt body with
      | some done => rfl
      | none => exact map_claimFrom body d.customizers 0

/-- What a line comes to, and who is followed after it, are told by its
outcome. -/
theorem processLine_of_outcome (d : Dispatcher) (line : String) :
    (d.processLine line).2
        = reportOf line (outcomeBehind (bodyOf line) d.followed d.customizers)
      ∧ (d.processLine line).1.followed
        = (outcomeBehind (bodyOf line) d.followed d.customizers).map (·.1) := by
  rw [← map_claim?]
  cases hclaim : d.claim? (bodyOf line) with
  | none =>
      rw [processLine_of_no_claim hclaim]
      exact ⟨rfl, rfl⟩
  | some claim =>
      obtain ⟨last, hact⟩ := d.exists_ofOwner
      obtain ⟨-, hc, -⟩ := claim?_eq_some_owner hact hclaim
      rw [processLine_of_claim hclaim]
      refine ⟨rfl, ?_⟩
      simp [followed, follower?, hc]

-- ======================================================== the simulation

/-- Two dispatchers that follow the same customizer and find the same one
first. -/
structure Alike (d d' : Dispatcher) : Prop where
  followed : d.followed = d'.followed
  first : ∀ body, firstOutcome body d.customizers = firstOutcome body d'.customizers

variable {d d' : Dispatcher}

/-- Dispatchers that are alike report the same for a line, and stay
alike. -/
theorem Alike.processLine (h : Alike d d') (line : String) :
    (d.processLine line).2 = (d'.processLine line).2
      ∧ Alike (d.processLine line).1 (d'.processLine line).1 := by
  have houtcome : outcomeBehind (bodyOf line) d.followed d.customizers
      = outcomeBehind (bodyOf line) d'.followed d'.customizers := by
    unfold outcomeBehind
    rw [h.followed, h.first]
  obtain ⟨hreport, hnext⟩ := d.processLine_of_outcome line
  obtain ⟨hreport', hnext'⟩ := d'.processLine_of_outcome line
  refine ⟨by rw [hreport, hreport', houtcome], by rw [hnext, hnext', houtcome], ?_⟩
  intro body
  rw [customizers_processLine, customizers_processLine]
  exact h.first body

theorem Alike.call (h : Alike d d') (c : Call) :
    (d.call c).2 = (d'.call c).2 ∧ Alike (d.call c).1 (d'.call c).1 := by
  cases hline : c.line? with
  | none =>
      rw [eq_reset_of_line?_eq_none hline]
      exact ⟨rfl, rfl, h.first⟩
  | some line =>
      obtain ⟨hreport, hnext⟩ := h.processLine line
      rw [call_of_line d hline, call_of_line d' hline, hreport]
      exact ⟨rfl, hnext⟩

/-- Dispatchers that are alike answer any calls in the same way, and stay
alike. -/
theorem Alike.run (h : Alike d d') (calls : List Call) :
    (d.run calls).2 = (d'.run calls).2 ∧ Alike (d.run calls).1 (d'.run calls).1 := by
  induction calls generalizing d d' with
  | nil => exact ⟨rfl, h⟩
  | cons c rest ih =>
      obtain ⟨hanswer, hnext⟩ := h.call c
      obtain ⟨hanswers, hlast⟩ := ih hnext
      rw [run_cons, run_cons, hanswer, hanswers]
      exact ⟨rfl, hlast⟩

theorem Alike.active? (h : Alike d d') : d.active? = d'.active? := by
  have hid : ∀ d : Dispatcher, d.active? = d.followed.map (·.id) := by
    intro d
    unfold Dispatcher.active? Dispatcher.followed
    rw [Option.map_map]
    rfl
  rw [hid, hid, h.followed]

end Dispatcher

-- ============================================================ the shadow

variable {customizers : List Customizer}

/-- The handler, if there is one, has no equal registered before it. -/
def Unshadowed (customizers : List Customizer) (owner : Option Nat) : Prop :=
  ∀ index, owner = some index → ∀ before < index,
    customizers[before]? ≠ customizers[index]?

theorem Owner.unshadowed {body : String} {last owner : Option Nat}
    (h : Owner customizers body last owner) (hlast : Unshadowed customizers last) :
    Unshadowed customizers owner := by
  cases h with
  | keeps _ => exact hlast
  | @first _ index _ hclaims hleast =>
      intro index' hindex before hlt heq
      injection hindex with hindex
      subst hindex
      obtain ⟨c, hc, hcan⟩ := hclaims
      exact hleast before hlt ⟨c, heq.trans hc, hcan⟩
  | nobody _ =>
      intro index hindex
      cases hindex

/-- The handler that a course leaves behind has no equal registered before
it. -/
theorem Course.unshadowed {last final : Option Nat} {calls : List Call}
    {reports : List (Option ProcessedLine)}
    (h : Course customizers last calls reports final)
    (hlast : Unshadowed customizers last) : Unshadowed customizers final := by
  induction h with
  | done => exact hlast
  | line _ howner _ _ ih => exact ih (howner.unshadowed hlast)
  | reset _ ih =>
      apply ih
      intro index hindex
      cases hindex

/-- No call makes a customizer active that has an equal registered before
it. -/
theorem Dispatcher.getElem?_ne_of_active {calls : List Call} {index : Nat}
    (h : ((ofCustomizers customizers).run calls).1.activity = .active index) :
    ∀ before < index, customizers[before]? ≠ customizers[index]? := by
  obtain ⟨reports, final, hcourse, hrun, -⟩ := run_follows customizers calls none
  have hfinal : Unshadowed customizers final := by
    apply hcourse.unshadowed
    intro index hindex
    cases hindex
  have hstart : (ofCustomizers customizers).run calls = _ := hrun
  rw [hstart] at h
  apply hfinal index
  cases final with
  | none => cases h
  | some i =>
      injection h with h
      rw [h]

end ConsoleLinks
