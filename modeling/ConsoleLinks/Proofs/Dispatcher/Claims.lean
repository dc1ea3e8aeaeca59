/-
Which customizer claims a line: the dispatcher's search for a claim,
read as a statement about registration indices.

The search has two parts, the customizer being followed and then all of
them from the first. Both are settled here once: `claimFrom` finds the
least index that claims and that customizer's outcome
(`claimFrom_eq_some`), and fails only where nobody claims
(`claimFrom_eq_none`). `claim?` inherits the two in the form the run law
consumes (`Ownership.lean`), the linking law likewise (`Linking.lean`).
-/
import ConsoleLinks.Dispatcher

namespace ConsoleLinks

-- ========================================================= vocabulary

/-- The line without the carriage return at its end: what customizers
are asked about. -/
def bodyOf (line : String) : String := (splitReturn line).1

/-- The carriage return that was cut off, or nothing. -/
def endingOf (line : String) : String := (splitReturn line).2

/-- The customizer registered at `index` takes the body for a line of its
own. -/
def Claims (customizers : List Customizer) (body : String) (index : Nat) : Prop :=
  ∃ c, customizers[index]? = some c ∧ c.canCustomize body = true

/-- Body and ending make up the line. -/
theorem bodyOf_append_endingOf (line : String) :
    bodyOf line ++ endingOf line = line := by
  unfold bodyOf endingOf splitReturn
  cases h : Text.beforeWord? ['\r'] line.toList with
  | none => simp
  | some body =>
      have hline : line.toList = body ++ ['\r'] :=
        Text.beforeWord?_eq_some_iff.1 h
      apply String.ext
      simp [hline]

/-- An ending is one carriage return, or nothing behind a line that does
not end in one. -/
theorem endingOf_eq (line : String) :
    endingOf line = "\r" ∨ endingOf line = "" ∧ ¬ ['\r'] <:+ line.toList := by
  unfold endingOf splitReturn
  cases h : Text.beforeWord? ['\r'] line.toList with
  | none =>
      refine Or.inr ⟨rfl, ?_⟩
      rintro ⟨body, hbody⟩
      rw [Text.beforeWord?_eq_some_iff.2 hbody.symm] at h
      cases h
  | some body => exact Or.inl rfl

/-- An attempt that succeeds is a claim. -/
theorem Claims.of_attempt {customizers : List Customizer} {body : String}
    {index : Nat} {c : Customizer} {done : Customized}
    (hc : customizers[index]? = some c) (hdone : c.attempt body = some done) :
    Claims customizers body index :=
  ⟨c, hc, by rw [Customizer.canCustomize, hdone]; rfl⟩

/-- A customizer whose attempt fails makes no claim. -/
theorem Claims.attempt_isSome {customizers : List Customizer} {body : String}
    {index : Nat} {c : Customizer} (hc : customizers[index]? = some c)
    (h : Claims customizers body index) : (c.attempt body).isSome = true := by
  obtain ⟨c', hc', hclaims⟩ := h
  rw [hc] at hc'
  injection hc' with hc'
  rw [hc']
  exact hclaims

namespace Dispatcher

-- ==================================================== the full search

/-- The search finds nothing exactly where nobody claims the body. -/
theorem claimFrom_eq_none {body : String} :
    ∀ {customizers : List Customizer} {start : Nat},
      claimFrom body start customizers = none →
      ∀ index, ¬ Claims customizers body index := by
  intro customizers
  induction customizers with
  | nil =>
      rintro start - index ⟨c, hc, -⟩
      simp at hc
  | cons c rest ih =>
      intro start h index hclaims
      cases hatt : c.attempt body with
      | some done => simp [claimFrom, hatt] at h
      | none =>
          rw [claimFrom, hatt] at h
          cases index with
          | zero =>
              have := hclaims.attempt_isSome (c := c) rfl
              simp [hatt] at this
          | succ index =>
              obtain ⟨c', hc', hcan⟩ := hclaims
              exact ih h index ⟨c', by simpa using hc', hcan⟩

/-- What the search finds is the least index that claims the body, with
that customizer's outcome. -/
theorem claimFrom_eq_some {body : String} {claim : Claim} :
    ∀ {customizers : List Customizer} {start : Nat},
      claimFrom body start customizers = some claim →
      ∃ index, claim.index = start + index
        ∧ customizers[index]? = some claim.customizer
        ∧ claim.customizer.attempt body = some claim.outcome
        ∧ ∀ before < index, ¬ Claims customizers body before := by
  intro customizers
  induction customizers with
  | nil =>
      intro start h
      cases h
  | cons c rest ih =>
      intro start h
      cases hatt : c.attempt body with
      | some done =>
          rw [claimFrom, hatt] at h
          injection h with h
          subst h
          exact ⟨0, rfl, rfl, hatt, fun before hlt => absurd hlt (by omega)⟩
      | none =>
          rw [claimFrom, hatt] at h
          obtain ⟨index, hindex, hc, hout, hleast⟩ := ih h
          refine ⟨index + 1, by omega, by simpa using hc, hout, ?_⟩
          intro before hlt hclaims
          cases before with
          | zero =>
              have := hclaims.attempt_isSome (c := c) rfl
              simp [hatt] at this
          | succ before =>
              obtain ⟨c', hc', hcan⟩ := hclaims
              exact hleast before (by omega) ⟨c', by simpa using hc', hcan⟩

-- ============================================ the customizer followed

/-- The customizer that keeps a line is the one being followed. -/
theorem keep?_eq_some {d : Dispatcher} {body : String} {claim : Claim}
    (h : d.keep? body = some claim) :
    d.activity = .active claim.index
      ∧ d.customizers[claim.index]? = some claim.customizer
      ∧ claim.customizer.attempt body = some claim.outcome := by
  obtain ⟨⟨index, c⟩, hfollow, hmap⟩ := Option.bind_eq_some_iff.1 h
  obtain ⟨done, hdone, hclaim⟩ := Option.map_eq_some_iff.1 hmap
  subst hclaim
  unfold follower? at hfollow
  cases hact : d.activity with
  | idle => simp [hact] at hfollow
  | active followed =>
      rw [hact] at hfollow
      obtain ⟨c', hc', heq⟩ := Option.map_eq_some_iff.1 hfollow
      injection heq with hi hc
      subst hi hc
      exact ⟨rfl, hc', hdone⟩

/-- A customizer that is followed and does not keep the line makes no
claim on it. -/
theorem not_claims_of_keep?_eq_none {d : Dispatcher} {body : String}
    (h : d.keep? body = none) {index : Nat} (hact : d.activity = .active index) :
    ¬ Claims d.customizers body index := by
  intro hclaims
  obtain ⟨c, hc, -⟩ := id hclaims
  have hsome := hclaims.attempt_isSome hc
  unfold keep? follower? at h
  rw [hact] at h
  simp only [hc, Option.map_some, Option.bind_some, Option.map_eq_none_iff] at h
  simp [h] at hsome

-- ===================================================== the line itself

/-- A claimed line: the outcome of the claim, the carriage return put
back, and its maker followed from here on. -/
theorem processLine_of_claim {d : Dispatcher} {line : String} {claim : Claim}
    (h : d.claim? (bodyOf line) = some claim) :
    d.processLine line =
      (⟨d.customizers, .active claim.index⟩,
       ⟨claim.outcome.text ++ endingOf line, some claim.customizer.id,
        claim.outcome.target⟩) := by
  unfold bodyOf at h
  simp only [processLine, h]
  rfl

/-- A line that nobody claims comes back as it was. -/
theorem processLine_of_no_claim {d : Dispatcher} {line : String}
    (h : d.claim? (bodyOf line) = none) :
    d.processLine line = (⟨d.customizers, .idle⟩, ⟨line, none, none⟩) := by
  have hline := bodyOf_append_endingOf line
  unfold bodyOf at h
  unfold bodyOf endingOf at hline
  simp only [processLine, h, hline]
  rfl

end Dispatcher

end ConsoleLinks
