/-
Searching a line from the front, and what "first" and "last" mean for a
cut of a text.

A grammar that looks for a mark keeps what it has passed in reverse and
tries its reader at each character of the line (`Scans`). What such a loop
comes to was read somewhere (`Scans.exists_of_eq_some`), on one line at the
first place there is (`Scans.eq_some_iff`); whether there is any is what a
pattern says that looks beyond a separator (`Scans.fits_beyond_iff`). So
the laws of the grammars speak of first cuts and of patterns, and none of
them has to go through a loop again.
-/
import ConsoleLinks.Proofs.Text.Pattern
import Mathlib.Data.List.Basic

namespace ConsoleLinks.Text

variable {α β γ : Type} {P : List α → Prop} {text front back : List α}

-- ====================================================== first and last

/-- A text cut at the first place behind which a property holds. -/
structure FirstCut (P : List α → Prop) (text front back : List α) : Prop where
  cut : text = front ++ back
  holds : P back
  first : ∀ front' back', text = front' ++ back' → P back' → front.length ≤ front'.length

/-- A text cut at the last place behind which a property holds. -/
structure LastCut (P : List α → Prop) (text front back : List α) : Prop where
  cut : text = front ++ back
  holds : P back
  last : ∀ front' back', text = front' ++ back' → P back' → front'.length ≤ front.length

namespace FirstCut

/-- There is one first place. -/
theorem unique {front' back' : List α} (h : FirstCut P text front back)
    (h' : FirstCut P text front' back') : front = front' ∧ back = back' := by
  have hle := h.first front' back' h'.cut h'.holds
  have hge := h'.first front back h.cut h.holds
  exact List.append_inj (h.cut.symm.trans h'.cut) (by omega)

/-- Where the property holds of the whole text, that is the first place. -/
theorem here (h : P text) : FirstCut P text [] text :=
  ⟨rfl, h, fun _ _ _ _ => Nat.zero_le _⟩

/-- Where it does not, the first place lies behind the first element. -/
theorem cons_iff {a : α} (h : ¬ P (a :: text)) :
    FirstCut P (a :: text) front back
      ↔ ∃ rest, front = a :: rest ∧ FirstCut P text rest back := by
  constructor
  · intro hcut
    cases front with
    | nil =>
        have hback : a :: text = back := hcut.cut
        exact absurd hcut.holds (hback ▸ h)
    | cons b rest =>
        have heq := hcut.cut
        injection heq with hb heq
        subst hb
        refine ⟨rest, rfl, heq, hcut.holds, fun front' back' heq' hP => ?_⟩
        have hle := hcut.first (a :: front') back' (congrArg (a :: ·) heq') hP
        exact Nat.le_of_succ_le_succ hle
  · rintro ⟨rest, rfl, hcut⟩
    refine ⟨congrArg (a :: ·) hcut.cut, hcut.holds, fun front' back' heq hP => ?_⟩
    cases front' with
    | nil =>
        have hback : a :: text = back' := heq
        exact absurd hP (hback ▸ h)
    | cons b front' =>
        injection heq with _ heq
        exact Nat.succ_le_succ (hcut.first front' back' heq hP)

end FirstCut

/-- A mark stands for the last time where its first character does not
occur any more. -/
theorem lastCut_of_not_mem {a : α} {word behind : List α} (h : a ∉ word ++ behind)
    (front : List α) :
    LastCut (fun t => a :: word <+: t) (front ++ a :: (word ++ behind)) front
      (a :: (word ++ behind)) := by
  refine ⟨rfl, ⟨behind, rfl⟩, fun front' back' hcut hmark => ?_⟩
  rcases List.append_eq_append_iff.1 hcut with ⟨between, hfront, hback⟩ | ⟨between, hfront, -⟩
  · cases between with
    | nil =>
        exact Nat.le_of_eq (by rw [hfront, List.append_nil])
    | cons b between =>
        injection hback with _ hback
        obtain ⟨rest, rfl⟩ := hmark
        refine absurd ?_ h
        rw [hback]
        exact List.mem_append_right between (List.mem_cons_self ..)
  · rw [hfront, List.length_append]
    exact Nat.le_add_right _ _

-- ========================================================== the search

/-- A loop that keeps what it passes in reverse, tries its reader at each
character and stops where the line ends. -/
structure Scans (read? : List Char → Option β) (finish : List Char → β → γ)
    (loop : (passed text : List Char) → Option γ) : Prop where
  nil : ∀ passed, loop passed [] = none
  cons : ∀ passed c text, loop passed (c :: text)
    = (read? (c :: text)).elim (if c = '\n' then none else loop (c :: passed) text)
        fun b => some (finish passed b)

namespace Scans

variable {read? : List Char → Option β} {finish : List Char → β → γ}
  {loop : (passed text : List Char) → Option γ} {text : List Char}

/-- What it comes to was read somewhere in the text. -/
theorem exists_of_eq_some (h : Scans read? finish loop) {passed : List Char} {result : γ}
    (hloop : loop passed text = some result) :
    ∃ front back b, text = front ++ back ∧ read? back = some b
      ∧ result = finish (front.reverse ++ passed) b := by
  induction text generalizing passed with
  | nil =>
      rw [h.nil] at hloop
      cases hloop
  | cons c text ih =>
      rw [h.cons] at hloop
      cases hread : read? (c :: text) with
      | some b =>
          rw [hread] at hloop
          exact ⟨[], c :: text, b, rfl, hread, (Option.some.inj hloop).symm⟩
      | none =>
          rw [hread, Option.elim_none] at hloop
          split at hloop
          next => cases hloop
          next =>
            obtain ⟨front, back, b, rfl, hback, rfl⟩ := ih hloop
            exact ⟨c :: front, back, b, rfl, hback, by simp⟩

/-- On one line it comes to what is read at the first place where the
reader succeeds. -/
theorem eq_some_iff (h : Scans read? finish loop) (hnil : read? [] = none)
    {P : List Char → Prop}
    (hread : ∀ back, '\n' ∉ back → ((read? back).isSome = true ↔ P back))
    (hline : '\n' ∉ text) {passed : List Char} {result : γ} :
    loop passed text = some result
      ↔ ∃ front back b, FirstCut P text front back ∧ read? back = some b
          ∧ result = finish (front.reverse ++ passed) b := by
  induction text generalizing passed with
  | nil =>
      rw [h.nil]
      refine iff_of_false (by simp) ?_
      rintro ⟨front, back, b, hcut, hback, -⟩
      obtain ⟨rfl, rfl⟩ := List.append_eq_nil_iff.1 hcut.cut.symm
      rw [hnil] at hback
      cases hback
  | cons c text ih =>
      obtain ⟨hc, hrest⟩ := not_or.1 (mt List.mem_cons.2 hline)
      have hhere := hread (c :: text) hline
      rw [h.cons, if_neg (Ne.symm hc)]
      cases hfound : read? (c :: text) with
      | some b =>
          have hcut : FirstCut P (c :: text) [] (c :: text) := .here (hhere.1 (by rw [hfound]; rfl))
          constructor
          · intro hresult
            exact ⟨[], c :: text, b, hcut, hfound, (Option.some.inj hresult).symm⟩
          · rintro ⟨front, back, b', hcut', hback, rfl⟩
            obtain ⟨rfl, rfl⟩ := hcut'.unique hcut
            rw [hfound] at hback
            injection hback with hb
            rw [hb]
            rfl
      | none =>
          have hnot : ¬ P (c :: text) := by
            rw [← hhere, hfound]
            simp
          rw [Option.elim_none, ih hrest]
          simp only [FirstCut.cons_iff hnot]
          constructor
          · rintro ⟨front, back, b, hcut, hback, rfl⟩
            exact ⟨c :: front, back, b, ⟨front, rfl, hcut⟩, hback, by simp⟩
          · rintro ⟨_, back, b, ⟨front, rfl, hcut⟩, hback, rfl⟩
            exact ⟨front, back, b, hcut, hback, by simp⟩

/-- It finds something exactly where what the reader reads stands behind
some separator on the line. -/
theorem fits_beyond_iff (h : Scans read? finish loop) {separator : String} {s : Char}
    {p : Pattern} (hseparator : separator.toList = [s])
    (hread : ∀ c text, (read? (c :: text)).isSome = true ↔ c = s ∧ p.Fits text)
    {passed : List Char} :
    (Pattern.beyond separator p).Fits text ↔ (loop passed text).isSome = true := by
  induction text generalizing passed with
  | nil =>
      rw [h.nil]
      exact iff_of_false (Pattern.not_fits_beyond_nil hseparator) (by simp)
  | cons c text ih =>
      rw [Pattern.fits_beyond_cons hseparator, ← hread, h.cons]
      cases read? (c :: text) with
      | some b => simp
      | none =>
          rw [Option.elim_none]
          split
          next hend => simp [hend]
          next hon =>
            have hrest : (Pattern.beyond separator p).Fits text
                ↔ (loop (c :: passed) text).isSome = true := ih
            simp [hon, hrest]

end Scans

end ConsoleLinks.Text
