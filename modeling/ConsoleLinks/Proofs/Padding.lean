/-
The padding law: a customizer commutes with white space around a line.

The grammars read the same place in a padded line, only further behind
(`Ecosystem.place?_padded`), and a link is made of the place and of nothing
else in the line (`attempt_of_place?`). So the padding comes out around
whatever the line itself comes to, and the link leads to the same target.
That holds of line breaks in the padding as well, although no pattern
reads beyond a line on its own account.
-/
import ConsoleLinks.Proofs.Line.Padding
import ConsoleLinks.Proofs.Linking

namespace ConsoleLinks

open Text

namespace LineMatch

theorem location?_shift (n : Nat) (m : LineMatch) :
    (m.shift n).location?
      = m.location?.map fun place => { place with span := place.span.shift n } := by
  cases m <;> rfl

/-- A target does not say where in the line its link is. -/
theorem ofMatch?_shift (n : Nat) (m : LineMatch) :
    NavigationTarget.ofMatch? (m.shift n) = NavigationTarget.ofMatch? m := by
  cases m <;> rfl

end LineMatch

namespace Ecosystem

variable {e : Ecosystem} {line : String} {m : LineMatch}

/-- Where a line shows a place it has been recognized. -/
theorem detect_of_place? (h : e.place? line = some m) :
    e.detect line = some m ∧ ∃ place, m.location? = some place := by
  obtain ⟨hdetect, hplace⟩ := Option.filter_eq_some_iff.1 h
  exact ⟨hdetect, Option.isSome_iff_exists.1 hplace⟩

/-- A line that shows a place is linked there. -/
theorem attempt_of_place? (settings : AnchorSettings) {place : SourceLocation}
    {target : NavigationTarget} {before visible behind : List Char}
    (h : e.place? line = some m) (hplace : m.location? = some place)
    (htarget : NavigationTarget.ofMatch? m = some target)
    (hline : line.toList = before ++ visible ++ behind)
    (hspan : place.span = .after before visible) :
    (e.customizer settings).attempt line
      = some ⟨String.ofList (before ++ Anchor.anchor settings target visible ++ behind),
          some target⟩ := by
  show (e.detect line).bind (LineMatch.apply settings line) = _
  rw [(detect_of_place? h).1, Option.bind_some]
  simp only [LineMatch.apply, hplace, htarget, hline, hspan, Anchor.wrap_append,
    Option.map_some]

/-- A line that shows no place comes back as it was, recognized or not. -/
theorem customize_of_no_place (settings : AnchorSettings) (h : e.place? line = none) :
    (e.customizer settings).customize line = line
      ∧ ((e.customizer settings).attempt line).bind (·.target) = none := by
  have hattempt : (e.customizer settings).attempt line
      = (e.detect line).bind (LineMatch.apply settings line) := rfl
  unfold Customizer.customize
  rw [hattempt]
  cases hdetect : e.detect line with
  | none => exact ⟨rfl, rfl⟩
  | some m =>
      have hplace : m.location? = none := by
        unfold place? at h
        rw [hdetect] at h
        simpa [Option.filter] using h
      have happly : LineMatch.apply settings line m = some ⟨line, none⟩ := by
        unfold LineMatch.apply
        rw [hplace]
      rw [Option.bind_some, happly]
      exact ⟨rfl, rfl⟩

/-- The padding law. For either grammar and any settings: white space in
front of a line and behind it comes out in front of what the line comes to
and behind it, and the link leads to the same target, or there is none as
before. -/
theorem customize_padded (e : Ecosystem) (settings : AnchorSettings) {w₁ w₂ : String}
    (h₁ : ∀ c ∈ w₁.toList, isBlank c = true) (h₂ : ∀ c ∈ w₂.toList, isBlank c = true)
    (line : String) :
    (e.customizer settings).customize (w₁ ++ line ++ w₂)
        = w₁ ++ (e.customizer settings).customize line ++ w₂
      ∧ ((e.customizer settings).attempt (w₁ ++ line ++ w₂)).bind (·.target)
        = ((e.customizer settings).attempt line).bind (·.target) := by
  have hpadded := e.place?_padded h₁ h₂ line
  cases hplace : e.place? line with
  | none =>
      rw [hplace] at hpadded
      obtain ⟨hsame, hnone⟩ := customize_of_no_place settings hplace
      obtain ⟨hsame', hnone'⟩ := customize_of_no_place settings hpadded
      rw [hsame, hsame', hnone, hnone']
      exact ⟨rfl, rfl⟩
  | some m =>
      rw [hplace] at hpadded
      obtain ⟨hdetect, place, hlocation⟩ := detect_of_place? hplace
      obtain ⟨target, before, visible, behind, htarget, hline, hspan, -⟩ :=
        shows_of_detect hdetect hlocation
      have hattempt := attempt_of_place? settings hplace hlocation htarget hline hspan
      have hlocation' : (m.shift (byteLength w₁.toList)).location?
          = some { place with span := place.span.shift (byteLength w₁.toList) } := by
        rw [LineMatch.location?_shift, hlocation]
        rfl
      have htarget' : NavigationTarget.ofMatch? (m.shift (byteLength w₁.toList))
          = some target := (LineMatch.ofMatch?_shift _ m).trans htarget
      have hline' : (w₁ ++ line ++ w₂).toList
          = (w₁.toList ++ before) ++ visible ++ (behind ++ w₂.toList) := by
        rw [String.toList_append, String.toList_append, hline]
        simp only [List.append_assoc]
      have hspan' : place.span.shift (byteLength w₁.toList)
          = .after (w₁.toList ++ before) visible := by
        rw [Span.after_append, hspan]
      have hattempt' :=
        attempt_of_place? settings hpadded hlocation' htarget' hline' hspan'
      unfold Customizer.customize
      rw [hattempt, hattempt']
      refine ⟨?_, rfl⟩
      simp [String.ext_iff]

/-- A frame between line breaks and other white space leads where it leads
by itself. -/
theorem customize_padded_frame :
    (∀ c ∈ "\n\t".toList, isBlank c = true) ∧ (∀ c ∈ "\u2028\r\n".toList, isBlank c = true)
      ∧ ((csharp.customizer {}).attempt
          ("\n\t" ++ "at A.B() in C.cs:line 3" ++ "\u2028\r\n")).bind (·.target)
        = some (.openFile "C.cs" 3) := by
  have h₁ : ∀ c ∈ "\n\t".toList, isBlank c = true := List.all_eq_true.1 (by decide)
  have h₂ : ∀ c ∈ "\u2028\r\n".toList, isBlank c = true := List.all_eq_true.1 (by decide)
  have hframe : ((csharp.customizer {}).attempt "at A.B() in C.cs:line 3").bind (·.target)
      = some (.openFile "C.cs" 3) := by decide +kernel
  exact ⟨h₁, h₂, (customize_padded csharp {} h₁ h₂ "at A.B() in C.cs:line 3").2.trans hframe⟩

end Ecosystem

end ConsoleLinks
