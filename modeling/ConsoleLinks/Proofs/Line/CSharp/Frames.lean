/-
Frames with a source file: the reader is opened once, in a lemma that
says what it finds (`Frame.ofLine?_eq_some_iff`). So the parts of a frame
make up the line (`Frame.text_of_ofLine?`), and there are any exactly where
the frame pattern fits (`fits_framePattern`).

# The search for the file

`findFile` goes over the text from the front and does not leave the line,
so it finds something exactly when some closing parenthesis on the line
will do (`fits_callPattern`). Which one it is is said in `FrameLaw.lean`.

# The cut at the end

White space ends where a digit stands, and the digits end where the blank
of `:line ` stands, so the number is cut off at the only place possible
(`cutNumber?_append`).
-/
import ConsoleLinks.Proofs.Line.CSharp.Parts
import ConsoleLinks.Proofs.Line.CSharp.Patterns

namespace ConsoleLinks.CSharp

open Text Text.Pattern

/-- A file begins with something visible and stays on its line. -/
theorem fits_mark_line {text : List Char} :
    (mark ++ Pattern.line).Fits text
      ↔ (∃ c rest, text = c :: rest ∧ isBlank c = false) ∧ '\n' ∉ text := by
  constructor
  · rintro ⟨_, rest, rfl, hfirst, hrest⟩
    obtain ⟨c, rfl, hc⟩ := fits_mark.1 hfirst
    refine ⟨⟨c, rest, rfl, hc⟩, fun hmem => ?_⟩
    rcases List.mem_cons.1 hmem with rfl | hmem
    · rw [isBlank_newline] at hc
      cases hc
    · exact fits_line.1 hrest hmem
  · rintro ⟨⟨c, rest, rfl, hc⟩, hline⟩
    have hrest : '\n' ∉ rest := fun hmem => hline (List.mem_cons_of_mem c hmem)
    exact (fits_mark.2 ⟨c, rfl, hc⟩).append (fits_line.2 hrest)

/-- What is split off is a link, and a file follows it. -/
theorem afterIn?_eq_some_iff {text link file : List Char} :
    afterIn? text = some (link, file)
      ↔ text = link ++ file ∧ (gap ++ word "in" ++ gap).Fits link
        ∧ (mark ++ Pattern.line).Fits file := by
  constructor
  · intro h
    have htext := append_of_afterIn? h
    unfold afterIn? at h
    dsimp only at h
    split at h
    next => cases h
    next rest hin =>
      split at h
      next => cases h
      next hparts =>
        injection h with h
        injection h with hlink hfile
        simp only [Bool.or_eq_true, not_or, Bool.not_eq_true, List.isEmpty_eq_false_iff]
          at hparts
        obtain ⟨⟨⟨hbefore, hbehind⟩, hne⟩, hline⟩ := hparts
        obtain ⟨c, back, hcons⟩ := List.exists_cons_of_ne_nil hne
        refine ⟨htext.symm, ?_, fits_mark_line.2 ⟨⟨c, back, ?_, ?_⟩, ?_⟩⟩
        · rw [← hlink]
          exact (((fits_takeWhile isBlank text).oneOrMore hbefore).append
            (fits_word "in")).append ((fits_takeWhile isBlank rest).oneOrMore hbehind)
        · rw [← hfile, hcons]
        · exact head_of_dropWhile_eq_cons hcons
        · rw [← hfile]
          exact breaksLine_eq_false_iff.1 hline
  · rintro ⟨rfl, hlink, hfile⟩
    obtain ⟨⟨c, rest, rfl, hc⟩, hline⟩ := fits_mark_line.1 hfile
    obtain ⟨_, behind, rfl, h, hbehind⟩ := hlink
    obtain ⟨before, _, rfl, hbefore, rfl⟩ := h
    obtain ⟨hne, hbefore⟩ := fits_oneOrMore_one.1 hbefore
    obtain ⟨hne', hbehind⟩ := fits_oneOrMore_one.1 hbehind
    have hin : ∀ d ∈ ("in".toList ++ (behind ++ c :: rest)).head?, isBlank d = false :=
      boundary_cons (by decide) _
    have htext : before ++ "in".toList ++ behind ++ c :: rest
        = before ++ ("in".toList ++ (behind ++ c :: rest)) := by
      simp only [List.append_assoc]
    unfold afterIn?
    rw [htext, dropWhile_append_of_boundary hbefore hin,
      takeWhile_append_of_boundary hbefore hin, afterWord?_append]
    dsimp only
    rw [dropWhile_append_of_boundary hbehind (boundary_cons hc rest),
      takeWhile_append_of_boundary hbehind (boundary_cons hc rest)]
    simp [hne, hne', breaksLine_eq_false_iff.2 hline]

/-- The link and the file are what is split off behind a parenthesis. -/
theorem fits_linkPattern {text : List Char} :
    linkPattern.Fits text ↔ (afterIn? text).isSome = true := by
  rw [Option.isSome_iff_exists, Prod.exists]
  simp only [afterIn?_eq_some_iff]
  exact Iff.rfl

/-- A link and a file are read exactly where a parenthesis closes and their
pattern fits behind it. -/
theorem isSome_linked?_cons {c : Char} {rest : List Char} :
    (linked? (c :: rest)).isSome = true ↔ c = ')' ∧ linkPattern.Fits rest := by
  rw [fits_linkPattern]
  unfold linked?
  split
  next heq =>
    injection heq with hclose hrest
    subst hclose hrest
    simp
  next hother =>
    have hclose : c ≠ ')' := fun hclose => hother rest (by rw [hclose])
    simp [hclose]

/-- A file is found exactly where some closing parenthesis on the line has
one behind it. -/
theorem fits_callPattern {text passed : List Char} :
    callPattern.Fits text ↔ (findFile passed text).isSome = true :=
  scans_findFile.fits_beyond_iff rfl fun _ _ => isSome_linked?_cons

/-- The number of a frame is a run of digits, with nothing but white space
behind it. -/
theorem of_cutNumber? {text body number closing : List Char}
    (h : cutNumber? text = some (body, number, closing)) :
    digits.Fits number ∧ blanks.Fits closing := by
  unfold cutNumber? at h
  dsimp only at h
  split at h
  next => cases h
  next hne =>
    split at h
    next => cases h
    next body' hbody =>
      injection h with h
      injection h with h₁ h
      injection h with h₂ h₃
      subst h₁ h₂ h₃
      exact ⟨(fits_reverse_takeWhile isDigit _).oneOrMore (by simpa using hne),
        fits_reverse_takeWhile isBlank text.reverse⟩

/-- The end of a frame is cut off where it begins. -/
theorem cutNumber?_append {number closing : List Char} (hnumber : digits.Fits number)
    (hclosing : blanks.Fits closing) (body : List Char) :
    cutNumber? (body ++ (":line ".toList ++ (number ++ closing)))
      = some (body, number, closing) := by
  obtain ⟨hne, hdigits⟩ := fits_oneOrMore_one.1 hnumber
  have hreverse : (body ++ (":line ".toList ++ (number ++ closing))).reverse
      = closing.reverse ++ (number.reverse ++ (" enil:".toList ++ body.reverse)) := by
    have hword : ":line ".toList.reverse = " enil:".toList := by decide
    simp only [List.reverse_append, List.append_assoc, hword]
  have hblank : ∀ c ∈ closing.reverse, isBlank c = true := fun c hc =>
    fits_many_one.1 hclosing c (List.mem_reverse.1 hc)
  have hrun : ∀ c ∈ number.reverse, isDigit c = true := fun c hc =>
    hdigits c (List.mem_reverse.1 hc)
  have hstop : ∀ c ∈ (number.reverse ++ (" enil:".toList ++ body.reverse)).head?,
      isBlank c = false :=
    boundary_append (List.reverse_ne_nil_iff.2 hne)
      (fun c hc => isBlank_of_isDigit (hrun c hc)) _
  have hstop' : ∀ c ∈ (" enil:".toList ++ body.reverse).head?, isDigit c = false :=
    boundary_cons (by decide) _
  have hbody : (" enil:".toList ++ body.reverse).reverse = body ++ ":line ".toList := by
    have hword : " enil:".toList.reverse = ":line ".toList := by decide
    rw [List.reverse_append, List.reverse_reverse, hword]
  unfold cutNumber?
  rw [hreverse, takeWhile_append_of_boundary hblank hstop,
    dropWhile_append_of_boundary hblank hstop]
  dsimp only
  rw [takeWhile_append_of_boundary hrun hstop', dropWhile_append_of_boundary hrun hstop',
    hbody, beforeWord?_eq_some_iff.2 rfl]
  simp [hne]

/-- The end of a frame is cut off exactly where it stands. -/
theorem cutNumber?_eq_some_iff {text body number closing : List Char} :
    cutNumber? text = some (body, number, closing)
      ↔ digits.Fits number ∧ blanks.Fits closing
        ∧ text = body ++ (":line ".toList ++ (number ++ closing)) := by
  constructor
  · intro h
    have htext := append_of_cutNumber? h
    obtain ⟨hnumber, hclosing⟩ := of_cutNumber? h
    exact ⟨hnumber, hclosing, by simpa using htext.symm⟩
  · intro h
    obtain ⟨hnumber, hclosing, rfl⟩ := h
    exact cutNumber?_append hnumber hclosing body

/-- What the reader of frames finds: `at`, a call behind white space with
the file in it, and at the end the number. -/
theorem Frame.ofLine?_eq_some_iff {line : List Char} {f : Frame} :
    Frame.ofLine? line = some f
      ↔ ∃ indent space c body call,
          blanks.Fits indent ∧ gap.Fits space ∧ isBlank c = false
            ∧ digits.Fits f.number ∧ blanks.Fits f.closing
            ∧ line = indent ++ ("at".toList ++ (space ++ c :: (body
                ++ (":line ".toList ++ (f.number ++ f.closing)))))
            ∧ findFile [c] body = some (call, f.file)
            ∧ f.opening = indent ++ "at".toList ++ space ++ call := by
  constructor
  · intro h
    unfold Frame.ofLine? at h
    dsimp only at h
    split at h
    next => cases h
    next rest hat =>
      split at h
      next => cases h
      next hgap =>
        split at h
        next => cases h
        next => cases h
        next c body number closing hnumber =>
          split at h
          next => cases h
          next call file hfile =>
            injection h with h
            subst h
            obtain ⟨hnumber, hclosing, hcall⟩ := cutNumber?_eq_some_iff.1 hnumber
            obtain ⟨space, hspace, hrest⟩ :=
              exists_run_of_ne_nil (by simpa using hgap) hcall
            have hline := List.takeWhile_append_dropWhile (p := isBlank) (l := line)
            rw [eq_append_of_afterWord? hat] at hline
            have htake : rest.takeWhile isBlank = space := by
              obtain ⟨-, hrun⟩ := fits_oneOrMore_one.1 hspace
              rw [hrest]
              exact takeWhile_append_of_boundary hrun
                (boundary_cons (head_of_dropWhile_eq_cons hcall) _)
            refine ⟨line.takeWhile isBlank, space, c, body, call, fits_takeWhile isBlank line,
              hspace, head_of_dropWhile_eq_cons hcall, hnumber, hclosing, ?_, hfile, ?_⟩
            · rw [hrest] at hline
              exact hline.symm
            · rw [← htake]
  · rintro ⟨indent, space, c, body, call, hindent, hspace, hc, hnumber, hclosing, rfl, hfile,
      hopening⟩
    obtain ⟨hne, hspace⟩ := fits_oneOrMore_one.1 hspace
    have hindent := fits_many_one.1 hindent
    have hat (rest : List Char) : ∀ d ∈ ("at".toList ++ rest).head?, isBlank d = false :=
      boundary_cons (by decide) _
    have hcall (rest : List Char) : ∀ d ∈ (c :: rest).head?, isBlank d = false :=
      boundary_cons hc rest
    have hcut := cutNumber?_append hnumber hclosing (c :: body)
    rw [List.cons_append] at hcut
    unfold Frame.ofLine?
    rw [dropWhile_append_of_boundary hindent (hat _),
      takeWhile_append_of_boundary hindent (hat _), afterWord?_append]
    dsimp only
    rw [dropWhile_append_of_boundary hspace (hcall _),
      takeWhile_append_of_boundary hspace (hcall _), if_neg (by simpa using hne), hcut]
    dsimp only
    rw [hfile]
    dsimp only
    rw [← hopening]

/-- A frame is the text of its parts. -/
theorem Frame.text_of_ofLine? {line : List Char} {f : Frame}
    (h : Frame.ofLine? line = some f) : f.text = line := by
  obtain ⟨indent, space, c, body, call, -, -, -, -, -, hline, hfile, hopening⟩ :=
    Frame.ofLine?_eq_some_iff.1 h
  have hbody : call ++ f.file = c :: body := append_of_findFile hfile
  calc f.text
      = indent ++ ("at".toList ++ (space ++ (call ++ f.file
          ++ (":line ".toList ++ (f.number ++ f.closing))))) := by
        simp only [Frame.text, hopening, List.append_assoc]
    _ = line := by
        rw [hbody, hline, List.cons_append]

/-- The frame pattern is what the reader of frames accepts. -/
theorem fits_framePattern {line : List Char} :
    framePattern.Fits line ↔ (Frame.ofLine? line).isSome = true := by
  rw [Option.isSome_iff_exists]
  simp only [Frame.ofLine?_eq_some_iff]
  constructor
  · intro h
    -- the parts, from the last to the first
    obtain ⟨_, closing, rfl, h, hclosing⟩ := h
    obtain ⟨_, number, rfl, h, hnumber⟩ := h
    obtain ⟨_, _, rfl, h, rfl⟩ := h
    obtain ⟨_, _, rfl, h, hcall⟩ := h
    obtain ⟨_, space, rfl, h, hspace⟩ := h
    obtain ⟨indent, _, rfl, hindent, rfl⟩ := h
    obtain ⟨_, body, rfl, hfirst, hbody⟩ := hcall
    obtain ⟨c, rfl, hc⟩ := fits_mark.1 hfirst
    have hfound : (findFile [c] body).isSome = true := fits_callPattern.1 hbody
    obtain ⟨⟨call, file⟩, hfile⟩ := Option.isSome_iff_exists.1 hfound
    exact ⟨⟨indent ++ "at".toList ++ space ++ call, file, number, closing⟩, indent, space, c,
      body, call, hindent, hspace, hc, hnumber, hclosing, by simp, hfile, rfl⟩
  · rintro ⟨f, indent, space, c, body, call, hindent, hspace, hc, hnumber, hclosing, rfl,
      hfile, -⟩
    have hbody : callPattern.Fits body :=
      fits_callPattern.2 (Option.isSome_iff_exists.2 ⟨_, hfile⟩)
    have hfits : framePattern.Fits _ :=
      (((((hindent.append (fits_word "at")).append hspace).append
        ((fits_mark.2 ⟨c, rfl, hc⟩).append hbody)).append (fits_word ":line ")).append
        hnumber).append hclosing
    simpa using hfits

end ConsoleLinks.CSharp
