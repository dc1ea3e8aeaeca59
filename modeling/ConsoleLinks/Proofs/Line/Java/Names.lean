/-
Names in Java lines: which characters they are made of, and how a
throwable's simple name is recognized.

A name opens with a character that may also go on in one
(`continuesName_of_opensName`), so a name is a run of one class, and
white space, dots, colons and parentheses, which lie outside the class,
end it. `isThrowable_iff` says what the test for a throwable's name comes
to: a name with one of the endings, and more than the ending alone.
-/
import ConsoleLinks.Line.Java
import ConsoleLinks.Proofs.Text.Classes
import ConsoleLinks.Proofs.Text.Runs

namespace ConsoleLinks.Java

open Text

-- ============================================================ characters

/-- What opens a name can go on in one. -/
theorem continuesName_of_opensName {c : Char} (h : opensName c = true) :
    continuesName c = true := by
  simp only [opensName, Bool.or_eq_true, decide_eq_true_eq] at h
  rcases h with (h | rfl) | rfl
  · simp only [continuesName, isWord_of_isAlpha h, Bool.true_or]
  · decide
  · decide

/-- White space ends a name. -/
theorem continuesName_of_isBlank {c : Char} (h : isBlank c = true) :
    continuesName c = false := by
  have hdollar : c ≠ '$' := by
    rintro rfl
    revert h
    decide
  simp [continuesName, isWord_of_isBlank h, hdollar]

/-- A name is a run of the characters that names go on with. -/
theorem continuesName_of_mem_isName {name : List Char} (h : isName name = true) :
    ∀ c ∈ name, continuesName c = true :=
  continues_of_mem_isNameOf (fun _ => continuesName_of_opensName) h

/-- A character outside the class does not occur in a name. -/
theorem not_mem_of_isName {name : List Char} {mark : Char}
    (h : isName name = true) (hmark : continuesName mark = false) : mark ∉ name :=
  not_mem_of_isNameOf (fun _ => continuesName_of_opensName) h hmark

-- ============================================================ throwables

/-- Endings are names themselves. -/
theorem isName_of_mem_endings {ending : List Char}
    (h : ending ∈ throwableEndings) : isName ending = true := by
  revert h
  revert ending
  decide

/-- No ending ends in another one. -/
theorem endings_eq_of_suffix {ending other : List Char}
    (h : ending ∈ throwableEndings) (hother : other ∈ throwableEndings)
    (hsuffix : ending <:+ other) : ending = other := by
  have htable : ∀ a ∈ throwableEndings, ∀ b ∈ throwableEndings,
      a.isSuffixOf b = true → a = b := by decide
  exact htable ending h other hother (List.isSuffixOf_iff_suffix.2 hsuffix)

/-- A name goes on being one with more name characters behind it. -/
theorem isName_append {stem rest : List Char} (h : isName stem = true)
    (hrest : ∀ c ∈ rest, continuesName c = true) :
    isName (stem ++ rest) = true := by
  cases stem with
  | nil => cases h
  | cons c stem =>
      obtain ⟨hc, hstem⟩ := isNameOf_cons.1 h
      refine isNameOf_cons.2 ⟨hc, fun d hd => ?_⟩
      rcases List.mem_append.1 hd with hd | hd
      · exact hstem d hd
      · exact hrest d hd

/-- The front of a name is a name, unless nothing is left of it. -/
theorem isName_of_append {stem rest : List Char}
    (h : isName (stem ++ rest) = true) (hne : stem ≠ []) : isName stem = true := by
  cases stem with
  | nil => exact absurd rfl hne
  | cons c stem =>
      obtain ⟨hc, hall⟩ := isNameOf_cons.1 h
      exact isNameOf_cons.2 ⟨hc, fun d hd => hall d (List.mem_append_left _ hd)⟩

/-- The test for a throwable's name: a name that ends in one of the
endings and is none of them. -/
theorem isThrowable_iff {name : List Char} :
    isThrowable name = true
      ↔ isName name = true ∧ (∃ ending ∈ throwableEndings, ending <:+ name)
          ∧ name ∉ throwableEndings := by
  constructor
  · intro h
    obtain ⟨ending, hending, hstem⟩ := List.any_eq_true.1 h
    split at hstem
    next stem hword =>
      have hname := beforeWord?_eq_some_iff.1 hword
      subst hname
      refine ⟨isName_append hstem
        (continuesName_of_mem_isName (isName_of_mem_endings hending)),
        ⟨ending, hending, stem, rfl⟩, fun hmem => ?_⟩
      have heq := endings_eq_of_suffix hending hmem ⟨stem, rfl⟩
      have hnil : stem = [] := List.self_eq_append_left.1 heq
      rw [hnil] at hstem
      cases hstem
    next => cases hstem
  · rintro ⟨hname, ⟨ending, hending, stem, hstem⟩, hmem⟩
    refine List.any_eq_true.2 ⟨ending, hending, ?_⟩
    subst hstem
    have hword : beforeWord? ending (stem ++ ending) = some stem :=
      beforeWord?_eq_some_iff.2 rfl
    simp only [hword]
    refine isName_of_append hname fun hnil => hmem ?_
    rw [hnil]
    exact hending

end ConsoleLinks.Java
