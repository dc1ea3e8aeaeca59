/-
What validation promises: the scheme of an accepted configuration is a
letter, some scheme characters and one colon, and its calls are names of
ASCII letters, digits, `_` and `$` (`Config.names_of_validate`). Links
are written with these texts as they are, so the proofs about payloads
start here.
-/
import ConsoleLinks.Config.Validation

namespace ConsoleLinks

-- =============================================================== names

/-- A scheme, character by character. -/
theorem isScheme_iff {text : String} :
    isScheme text = true
      ↔ ∃ c rest, text.toList = c :: rest ++ [':'] ∧ c.isAlpha = true
          ∧ ∀ d ∈ rest, isSchemeChar d = true := by
  constructor
  · intro h
    unfold isScheme at h
    split at h
    next c rest hword =>
      simp only [Bool.and_eq_true, List.all_eq_true] at h
      exact ⟨c, rest, Text.beforeWord?_eq_some_iff.1 hword, h.1, h.2⟩
    next => cases h
    next => cases h
  · rintro ⟨c, rest, htext, hc, hrest⟩
    have hword : Text.beforeWord? [':'] text.toList = some (c :: rest) :=
      Text.beforeWord?_eq_some_iff.2 htext
    simp only [isScheme, hword, hc, Bool.true_and]
    exact List.all_eq_true.2 hrest

/-- The name of a call, character by character. -/
theorem isCallName_iff {text : String} :
    isCallName text = true
      ↔ ∃ c rest, text.toList = c :: rest
          ∧ (c.isAlpha = true ∨ c = '_' ∨ c = '$')
          ∧ ∀ d ∈ rest, d.isAlphanum = true ∨ d = '_' ∨ d = '$' := by
  unfold isCallName
  cases text.toList with
  | nil => simp
  | cons c rest =>
      simp only [Bool.and_eq_true, Bool.or_eq_true, decide_eq_true_eq,
        List.all_eq_true, or_assoc]
      constructor
      · rintro ⟨hc, hrest⟩
        exact ⟨c, rest, rfl, hc, hrest⟩
      · rintro ⟨_, _, htext, hc, hrest⟩
        injection htext with hhead htail
        subst hhead htail
        exact ⟨hc, hrest⟩

/-- A letter is a letter or digit. -/
theorem isAlphanum_of_isAlpha {c : Char} (h : c.isAlpha = true) :
    c.isAlphanum = true := by
  simp [Char.isAlphanum, h]

/-- A scheme ends in its only colon. -/
theorem exists_name_of_isScheme {text : String} (h : isScheme text = true) :
    ∃ name, text.toList = name ++ [':'] ∧ ∀ c ∈ name, isSchemeChar c = true := by
  obtain ⟨c, rest, htext, hc, hrest⟩ := isScheme_iff.1 h
  refine ⟨c :: rest, htext, fun d hd => ?_⟩
  rcases List.mem_cons.1 hd with rfl | hd
  · simp [isSchemeChar, isAlphanum_of_isAlpha hc]
  · exact hrest d hd

/-- The name of a call is made of letters, digits, `_` and `$`. -/
theorem alphanum_or_mark_of_mem_call {text : String} (h : isCallName text = true) :
    ∀ c ∈ text.toList, c.isAlphanum = true ∨ c = '_' ∨ c = '$' := by
  obtain ⟨c, rest, htext, hc, hrest⟩ := isCallName_iff.1 h
  intro d hd
  rw [htext] at hd
  rcases List.mem_cons.1 hd with rfl | hd
  · exact hc.imp_left isAlphanum_of_isAlpha
  · exact hrest d hd

-- ====================================================== configurations

namespace Action

/-- Every action is among all. -/
theorem mem_all (a : Action) : a ∈ all := by
  cases a <;> decide

end Action

/-- The names that an accepted configuration writes links with. -/
theorem Config.names_of_validate {c accepted : Config}
    (h : c.validate = .ok accepted) :
    isScheme c.anchor.scheme = true
      ∧ ∀ a, isCallName (c.anchor.call a) = true := by
  unfold validate at h
  split at h
  next => cases h
  next hdefect =>
    unfold defect? at hdefect
    split at hdefect
    next => cases hdefect
    next hscheme =>
      split at hdefect
      next => cases hdefect
      next hcalls =>
        refine ⟨by simpa using hscheme, fun a => ?_⟩
        have hcall := List.find?_eq_none.1 hcalls a (Action.mem_all a)
        simpa using hcall

/-- The defaults are accepted. -/
theorem Config.validate_default : ({} : Config).validate = .ok {} := by
  have hdefect : ({} : Config).defect? = none := by decide +kernel
  rw [validate, hdefect]

end ConsoleLinks
