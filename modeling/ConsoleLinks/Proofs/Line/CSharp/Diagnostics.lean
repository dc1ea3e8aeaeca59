/-
Compiler diagnostics: the reader finds one exactly where the diagnostic
pattern fits (`fits_diagnosticPattern`).

The reader looks for the first place that a code and a message follow;
each of the three has a reader of its own, which finds what it reads at
the front of the text and hands on the rest. So each law here is about a
text that its pattern fits the front of (`place?_eq_some_iff`,
`afterCode?_eq_some_iff`), and the last one about all that is left
(`fits_textPattern`). A reader with many cuts is opened once, in a lemma
that lists them (`afterCode?_eq_some_iff_cuts`, `isSome_project?_iff`).
Which place is the first one is said in `DiagnosticLaw.lean`.
-/
import ConsoleLinks.Proofs.Line.CSharp.Parts
import ConsoleLinks.Proofs.Line.CSharp.Patterns

namespace ConsoleLinks.CSharp

open Text Text.Pattern

-- ============================================================== places

/-- A number in front of something else is read. -/
theorem number?_append {number rest : List Char} (h : digits.Fits number)
    (hrest : ∀ c ∈ rest.head?, isDigit c = false) :
    number? (number ++ rest) = some (number, rest) := by
  obtain ⟨hne, hdigits⟩ := fits_oneOrMore_one.1 h
  unfold number?
  rw [takeWhile_append_of_boundary hdigits hrest,
    dropWhile_append_of_boundary hdigits hrest, if_neg (by simpa using hne)]

/-- Two numbers and a comma between them are read. -/
theorem numberPair?_append {first second rest : List Char} (hfirst : digits.Fits first)
    (hsecond : digits.Fits second) (hrest : ∀ c ∈ rest.head?, isDigit c = false) :
    numberPair? (first ++ ',' :: (second ++ rest)) = some (first, second, rest) := by
  have hpair : number? (first ++ ',' :: (second ++ rest))
      = some (first, ',' :: (second ++ rest)) :=
    number?_append hfirst (boundary_cons (by decide) _)
  simp only [numberPair?, hpair, number?_append hsecond hrest]

/-- The end of a range is nothing, or two more numbers. -/
theorem isRange_iff {range : List Char} :
    IsRange range ↔ (maybe (word "," ++ digits ++ word "," ++ digits)).Fits range := by
  rw [fits_maybe, or_comm]
  refine or_congr_right ?_
  constructor
  · rintro ⟨endLine, endColumn, rfl, hline, hline', hcolumn, hcolumn'⟩
    exact (((fits_word ",").append (fits_oneOrMore_one.2 ⟨hline, hline'⟩)).append
      (fits_word ",")).append (fits_oneOrMore_one.2 ⟨hcolumn, hcolumn'⟩)
  · intro h
    obtain ⟨_, endColumn, rfl, h, hendColumn⟩ := h
    obtain ⟨_, _, rfl, h, rfl⟩ := h
    obtain ⟨_, endLine, rfl, rfl, hendLine⟩ := h
    obtain ⟨hline, hline'⟩ := fits_oneOrMore_one.1 hendLine
    obtain ⟨hcolumn, hcolumn'⟩ := fits_oneOrMore_one.1 hendColumn
    exact ⟨endLine, endColumn, rfl, hline, hline', hcolumn, hcolumn'⟩

/-- A place is read where it stands. -/
theorem place?_append {line column range : List Char} (hline : digits.Fits line)
    (hcolumn : digits.Fits column) (hrange : IsRange range) (behind : List Char) :
    place? (line ++ ',' :: (column ++ (range ++ ')' :: behind)))
      = some (line, column, range, behind) := by
  rcases hrange with rfl | ⟨endLine, endColumn, rfl, hendLine, hendLine', hendColumn,
    hendColumn'⟩
  · have hpair := numberPair?_append hline hcolumn
      (boundary_cons (by decide : isDigit ')' = false) behind)
    simp only [place?, List.nil_append, hpair]
  · have hpair := numberPair?_append hline hcolumn
      (boundary_cons (by decide : isDigit ',' = false)
        (endLine ++ ',' :: (endColumn ++ ')' :: behind)))
    have hend := numberPair?_append (fits_oneOrMore_one.2 ⟨hendLine, hendLine'⟩)
      (fits_oneOrMore_one.2 ⟨hendColumn, hendColumn'⟩)
      (boundary_cons (by decide : isDigit ')' = false) behind)
    have hrange : [','] ++ endLine ++ [','] ++ endColumn ++ ')' :: behind
        = ',' :: (endLine ++ ',' :: (endColumn ++ ')' :: behind)) := by
      simp
    rw [hrange]
    simp only [place?, hpair, hend]

/-- A place is read exactly where the text begins with one. -/
theorem place?_eq_some_iff {text line column range behind : List Char} :
    place? text = some (line, column, range, behind)
      ↔ digits.Fits line ∧ digits.Fits column ∧ IsRange range
        ∧ text = line ++ ',' :: (column ++ (range ++ ')' :: behind)) := by
  constructor
  · intro h
    obtain ⟨htext, hline, hcolumn, hrange⟩ := of_place? h
    exact ⟨fits_oneOrMore_one.2 hline, fits_oneOrMore_one.2 hcolumn, hrange,
      by simpa using htext⟩
  · rintro ⟨hline, hcolumn, hrange, rfl⟩
    exact place?_append hline hcolumn hrange behind

/-- What is read there is what the pattern of a place fits. -/
theorem exists_place?_iff {text behind : List Char} :
    (∃ line column range, place? text = some (line, column, range, behind))
      ↔ ∃ front, placePattern.Fits front ∧ text = front ++ behind := by
  simp only [place?_eq_some_iff, isRange_iff]
  constructor
  · rintro ⟨line, column, range, hline, hcolumn, hrange, htext⟩
    have hfits : placePattern.Fits _ := (((hline.append (fits_word ",")).append
      hcolumn).append hrange).append (fits_word ")")
    exact ⟨_, hfits, by simpa using htext⟩
  · intro h
    obtain ⟨_, h, rfl⟩ := h
    obtain ⟨_, _, rfl, h, rfl⟩ := h
    obtain ⟨_, range, rfl, h, hrange⟩ := h
    obtain ⟨_, column, rfl, h, hcolumn⟩ := h
    obtain ⟨line, _, rfl, hline, rfl⟩ := h
    exact ⟨line, column, range, hline, hcolumn, hrange, by simp⟩

-- =============================================================== codes

/-- The kind of a diagnostic is taken off exactly where the text begins
with one. -/
theorem afterKind_eq_some_iff {text rest : List Char} :
    (afterWord? "error".toList text <|> afterWord? "warning".toList text) = some rest
      ↔ ∃ kind, kindPattern.Fits kind ∧ text = kind ++ rest := by
  constructor
  · intro h
    cases herror : afterWord? "error".toList text with
    | some behind =>
        rw [herror] at h
        injection h with h
        subst h
        exact ⟨_, .left rfl, eq_append_of_afterWord? herror⟩
    | none =>
        rw [herror] at h
        exact ⟨_, .right rfl, eq_append_of_afterWord? h⟩
  · intro h
    obtain ⟨kind, rfl | rfl, rfl⟩ := h
    · rw [afterWord?_append]
      rfl
    · rw [afterWord?_append]
      rfl

/-- What the reader of codes finds, cut by cut: the first colon, the kind
behind white space, and behind more white space letters, digits and the
second colon. -/
theorem afterCode?_eq_some_iff_cuts {text rest : List Char} :
    afterCode? text = some rest
      ↔ ∃ behind code, dropBlanks text = ':' :: behind
          ∧ behind.takeWhile isBlank ≠ []
          ∧ (∃ kind, kindPattern.Fits kind ∧ dropBlanks behind = kind ++ code)
          ∧ code.takeWhile isBlank ≠ []
          ∧ (dropBlanks code).takeWhile Char.isAlpha ≠ []
          ∧ ((dropBlanks code).dropWhile Char.isAlpha).takeWhile isDigit ≠ []
          ∧ dropBlanks (((dropBlanks code).dropWhile Char.isAlpha).dropWhile isDigit)
              = ':' :: rest := by
  simp only [← afterKind_eq_some_iff]
  constructor
  · intro h
    unfold afterCode? at h
    split at h
    next behind hcolon =>
      dsimp only at h
      split at h
      next => cases h
      next hgap =>
        split at h
        next => cases h
        next code hkind =>
          split at h
          next => cases h
          next hserial =>
            split at h
            next message hend =>
              injection h with h
              subst h
              simp only [Bool.or_eq_true, not_or, Bool.not_eq_true,
                List.isEmpty_eq_false_iff] at hserial
              obtain ⟨⟨hspace, hletters⟩, hdigits⟩ := hserial
              exact ⟨behind, code, hcolon, by simpa using hgap, hkind, hspace, hletters,
                hdigits, hend⟩
            next => cases h
    next => cases h
  · intro h
    obtain ⟨behind, code, hcolon, hgap, hkind, hspace, hletters, hdigits, hend⟩ := h
    simp only [afterCode?, hcolon, hkind, hend, List.isEmpty_iff, hgap, hspace, hletters,
      hdigits, Bool.or_eq_true, or_self, if_false]

/-- A code is taken off exactly where the text begins with one. -/
theorem afterCode?_eq_some_iff {text rest : List Char} :
    afterCode? text = some rest
      ↔ ∃ front, codePattern.Fits front ∧ text = front ++ rest := by
  rw [afterCode?_eq_some_iff_cuts]
  constructor
  · intro h
    obtain ⟨behind, code, hcolon, hgap, ⟨kind, hkind, hword⟩, hspace, hletters, hdigits,
      hend⟩ := h
    obtain ⟨indent, hindent, rfl⟩ := exists_run hcolon
    obtain ⟨space, hspace', rfl⟩ := exists_run_of_ne_nil hgap hword
    obtain ⟨space', hspace'', hcode⟩ := exists_run_of_ne_nil hspace rfl
    obtain ⟨letters, hletters', hserial⟩ := exists_run_of_ne_nil hletters rfl
    obtain ⟨number, hnumber, hclosing⟩ := exists_run_of_ne_nil hdigits rfl
    obtain ⟨closing, hclosing', hmessage⟩ := exists_run hend
    have hfront : codePattern.Fits _ :=
      (((((((hindent.append (fits_word ":")).append hspace').append hkind).append
        hspace'').append hletters').append hnumber).append hclosing').append (fits_word ":")
    refine ⟨_, hfront, ?_⟩
    rw [hcode, ← dropBlanks, hserial, hclosing, hmessage]
    simp
  · intro h
    -- the parts, from the last to the first
    obtain ⟨_, h, rfl⟩ := h
    obtain ⟨_, _, rfl, h, rfl⟩ := h
    obtain ⟨_, closing, rfl, h, hclosing⟩ := h
    obtain ⟨_, number, rfl, h, hnumber⟩ := h
    obtain ⟨_, letters, rfl, h, hletters⟩ := h
    obtain ⟨_, space', rfl, h, hspace'⟩ := h
    obtain ⟨_, kind, rfl, h, hkind⟩ := h
    obtain ⟨_, space, rfl, h, hspace⟩ := h
    obtain ⟨indent, _, rfl, hindent, rfl⟩ := h
    -- what stands behind each of them, and stops the run in front
    obtain ⟨hletters', halpha⟩ := fits_oneOrMore_one.1 hletters
    obtain ⟨hnumber', hdigit⟩ := fits_oneOrMore_one.1 hnumber
    have hcolonBehind : ∀ c ∈ (closing ++ ':' :: rest).head?, isDigit c = false := by
      intro c hc
      cases closing with
      | nil => exact boundary_cons (by decide) rest c hc
      | cons d closing =>
          have hd := fits_many_one.1 hclosing d (List.mem_cons_self ..)
          exact boundary_cons (isDigit_of_isBlank hd) (closing ++ ':' :: rest) c hc
    have hnumberBehind :=
      boundary_append hnumber' (fun c hc => isAlpha_of_isDigit (hdigit c hc))
        (closing ++ ':' :: rest)
    have hlettersBehind :=
      boundary_append hletters' (fun c hc => isBlank_of_isAlpha (halpha c hc))
        (number ++ (closing ++ ':' :: rest))
    have hkindBehind : ∀ code, ∀ c ∈ (kind ++ code).head?, isBlank c = false := by
      intro code
      rcases hkind with rfl | rfl
      · exact boundary_cons (by decide) _
      · exact boundary_cons (by decide) _
    -- the cuts
    obtain ⟨hdigitsCut, hclosingCut⟩ := cut_of_run hnumber hcolonBehind
    obtain ⟨hlettersCut, hnumberCut⟩ := cut_of_run hletters hnumberBehind
    obtain ⟨hspaceCut, hcodeCut⟩ := cut_of_run hspace' hlettersBehind
    obtain ⟨hgapCut, hkindCut⟩ := cut_of_run hspace (hkindBehind
      (space' ++ (letters ++ (number ++ (closing ++ ':' :: rest)))))
    have hcolonCut := dropWhile_append_of_boundary (fits_many_one.1 hindent)
      (boundary_cons (by decide : isBlank ':' = false)
        (space ++ (kind ++ (space' ++ (letters ++ (number ++ (closing ++ ':' :: rest)))))))
    have hendCut := dropWhile_append_of_boundary (fits_many_one.1 hclosing)
      (boundary_cons (by decide : isBlank ':' = false) rest)
    refine ⟨_, _, ?_, hgapCut, ⟨kind, hkind, hkindCut⟩, hspaceCut, ?_, ?_, ?_⟩
    · simpa [dropBlanks] using hcolonCut
    · rwa [dropBlanks, hcodeCut]
    · rwa [dropBlanks, hcodeCut, hnumberCut]
    · rwa [dropBlanks, dropBlanks, hcodeCut, hnumberCut, hclosingCut]

-- ============================================================ messages

/-- A project in brackets is found at the end of a message. -/
theorem projectAtEnd?_append {blank : Char} {project closing : List Char}
    (hblank : isBlank blank = true) (hne : project ≠ [])
    (hplain : ∀ c ∈ project, (c ≠ '[' && c ≠ ']') = true)
    (hclosing : ∀ c ∈ closing, isBlank c = true) (before : List Char) :
    projectAtEnd? (before ++ blank :: '[' :: (project ++ ']' :: closing))
      = some (before, project) := by
  have hreverse : (before ++ blank :: '[' :: (project ++ ']' :: closing)).reverse
      = closing.reverse ++ ']' :: (project.reverse ++ '[' :: blank :: before.reverse) := by
    simp
  have hrun : ∀ c ∈ closing.reverse, isBlank c = true := fun c hc =>
    hclosing c (List.mem_reverse.1 hc)
  have hrun' : ∀ c ∈ project.reverse, (c ≠ '[' && c ≠ ']') = true := fun c hc =>
    hplain c (List.mem_reverse.1 hc)
  have hclose : (before ++ blank :: '[' :: (project ++ ']' :: closing)).reverse.dropWhile
      isBlank = ']' :: (project.reverse ++ '[' :: blank :: before.reverse) := by
    rw [hreverse]
    exact dropWhile_append_of_boundary hrun (boundary_cons (by decide) _)
  have hstop : ∀ c ∈ ('[' :: blank :: before.reverse).head?,
      (c ≠ '[' && c ≠ ']') = false := boundary_cons (by decide) _
  have hname := takeWhile_append_of_boundary hrun' hstop
  have hopen := dropWhile_append_of_boundary hrun' hstop
  simp only [projectAtEnd?, hclose, hname, hopen]
  simp [hblank, hne]

/-- A message is read when the part of it that counts stays on one line:
what stands in front of the project, or everything up to the trailing
white space where no project is named. -/
theorem isSome_project?_iff {text : List Char} :
    (project? text).isSome = true
      ↔ (∃ before project, projectAtEnd? text = some (before, project) ∧ '\n' ∉ before)
        ∨ projectAtEnd? text = none ∧ '\n' ∉ dropBlanksEnd text := by
  simp only [← breaksLine_eq_false_iff]
  unfold project?
  cases hfound : projectAtEnd? text with
  | none => cases breaksLine (dropBlanksEnd text) <;> simp
  | some found =>
      obtain ⟨before, project⟩ := found
      cases hline : breaksLine before <;> simp [hline]

/-- A message is read exactly where its pattern fits. -/
theorem fits_textPattern {text : List Char} :
    textPattern.Fits text ↔ (project? text).isSome = true := by
  rw [isSome_project?_iff]
  constructor
  · intro h
    obtain ⟨_, closing, rfl, h, hclosing⟩ := h
    obtain ⟨before, _, rfl, hbefore, hproject⟩ := h
    have hbefore := fits_line.1 hbefore
    have hclosing := fits_many_one.1 hclosing
    rcases hproject with h | rfl
    · obtain ⟨_, _, rfl, h, rfl⟩ := h
      obtain ⟨_, project, rfl, h, hproject⟩ := h
      obtain ⟨_, _, rfl, ⟨blank, rfl, hblank⟩, rfl⟩ := h
      obtain ⟨hne, hplain⟩ := fits_oneOrMore_one.1 hproject
      have htext : before ++ ([blank] ++ "[".toList ++ project ++ "]".toList) ++ closing
          = before ++ blank :: '[' :: (project ++ ']' :: closing) := by
        simp
      exact .inl ⟨before, project,
        htext ▸ projectAtEnd?_append hblank hne hplain hclosing before, hbefore⟩
    · have hline : '\n' ∉ dropBlanksEnd (before ++ "".toList ++ closing) := by
        rw [dropBlanksEnd_append_blanks hclosing]
        exact fun hmem => hbefore (by simpa using mem_of_mem_dropBlanksEnd hmem)
      cases hfound : projectAtEnd? (before ++ "".toList ++ closing) with
      | none => exact .inr ⟨rfl, hline⟩
      | some found =>
          -- a project that is found stands in front of the closing blanks
          obtain ⟨-, -, blank, -, hshown⟩ := of_projectAtEnd? hfound
          rw [hshown] at hline
          exact .inl ⟨found.1, found.2, rfl, fun hmem => hline (by simp [hmem])⟩
  · intro h
    rcases h with ⟨before, project, hfound, hline⟩ | ⟨-, hline⟩
    · obtain ⟨hne, hplain, blank, hblank, hshown⟩ := of_projectAtEnd? hfound
      obtain ⟨closing, hclosing, rfl⟩ := exists_closing hshown
      have hproject : (Pattern.oneOrMore (one fun c => c ≠ '[' && c ≠ ']')).Fits
          project :=
        fits_oneOrMore_one.2 ⟨hne, fun c hc => by simpa using hplain c hc⟩
      have hbracket : (one isBlank).Fits [blank] := ⟨blank, rfl, hblank⟩
      have hfits : textPattern.Fits _ := ((fits_line.2 hline).append ((((hbracket.append
        (fits_word "[")).append hproject).append (fits_word "]")).left)).append hclosing
      simpa using hfits
    · obtain ⟨closing, hclosing, htext⟩ := exists_closing (rfl : dropBlanksEnd text = _)
      have hfits : textPattern.Fits _ :=
        ((fits_line.2 hline).append (Fits.right (fits_word ""))).append hclosing
      rw [htext]
      simpa using hfits

-- ========================================================== the search

/-- What stands behind the parenthesis is read part by part. -/
theorem fits_placedPattern {text : List Char} :
    placedPattern.Fits text
      ↔ ∃ line column range behind message,
          place? text = some (line, column, range, behind)
            ∧ afterCode? behind = some message ∧ (project? message).isSome = true := by
  constructor
  · intro h
    obtain ⟨_, message, rfl, h, hmessage⟩ := h
    obtain ⟨place, code, rfl, hplace, hcode⟩ := h
    obtain ⟨line, column, range, hread⟩ :=
      exists_place?_iff.2 ⟨place, hplace, List.append_assoc place code message⟩
    exact ⟨line, column, range, _, message, hread,
      afterCode?_eq_some_iff.2 ⟨code, hcode, rfl⟩, fits_textPattern.1 hmessage⟩
  · rintro ⟨line, column, range, behind, message, hread, hafter, hproject⟩
    obtain ⟨place, hplace, rfl⟩ := exists_place?_iff.1 ⟨line, column, range, hread⟩
    obtain ⟨code, hcode, rfl⟩ := afterCode?_eq_some_iff.1 hafter
    have hfits : placedPattern.Fits _ :=
      (hplace.append hcode).append (fits_textPattern.2 hproject)
    rwa [List.append_assoc] at hfits

/-- A report is read exactly where a parenthesis opens and the pattern of
what stands behind it fits. -/
theorem isSome_report?_cons {c : Char} {rest : List Char} :
    (report? (c :: rest)).isSome = true ↔ c = '(' ∧ placedPattern.Fits rest := by
  rw [Option.isSome_iff_exists, fits_placedPattern]
  constructor
  · rintro ⟨⟨line, column, range, project⟩, hread⟩
    obtain ⟨_, behind, message, htext, hplace, hcode, hproject⟩ := report?_eq_some_iff.1 hread
    injection htext with hopen hrest
    subst hopen hrest
    exact ⟨rfl, line, column, range, behind, message, hplace, hcode,
      Option.isSome_iff_exists.2 ⟨project, hproject⟩⟩
  · rintro ⟨rfl, line, column, range, behind, message, hplace, hcode, hproject⟩
    obtain ⟨project, hproject⟩ := Option.isSome_iff_exists.1 hproject
    exact ⟨_, report?_eq_some_iff.2 ⟨rest, behind, message, rfl, hplace, hcode, hproject⟩⟩

/-- A place is found exactly where some opening parenthesis on the line
has one behind it, and a code and a message after that. -/
theorem fits_locationPattern {indent text file : List Char} :
    locationPattern.Fits text ↔ (findPlace indent file text).isSome = true :=
  (scans_findPlace indent).fits_beyond_iff rfl fun _ _ => isSome_report?_cons

/-- The diagnostic pattern is what the reader of diagnostics accepts. -/
theorem fits_diagnosticPattern {line : List Char} :
    diagnosticPattern.Fits line ↔ (Diagnostic.ofLine? line).isSome = true := by
  unfold Diagnostic.ofLine?
  constructor
  · intro h
    obtain ⟨indent, _, rfl, hindent, h⟩ := h
    obtain ⟨_, rest, rfl, hfirst, hrest⟩ := h
    obtain ⟨c, rfl, hc⟩ := fits_mark.1 hfirst
    have hcons : (indent ++ ([c] ++ rest)).dropWhile isBlank = c :: rest :=
      dropWhile_append_of_boundary (fits_many_one.1 hindent) (boundary_cons hc _)
    rw [hcons]
    exact fits_locationPattern.1 hrest
  · intro h
    split at h
    next => cases h
    next c rest hcons =>
      obtain ⟨indent, hindent, hline⟩ := exists_run hcons
      have hmark := fits_mark.2 ⟨c, rfl, head_of_dropWhile_eq_cons hcons⟩
      rw [hline]
      exact hindent.append (hmark.append (fits_locationPattern.2 h))

end ConsoleLinks.CSharp
