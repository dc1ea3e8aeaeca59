/-
The parts of frames and diagnostics, read back: each reader returns a cut
of the text it was given.

# Frames

`cutNumber?` works from the end of the line and `findFile` from its
front; the two cuts meet in the body between them
(`append_of_cutNumber?`, `append_of_findFile`).

# Diagnostics

`findPlace` keeps the file name in reverse while it looks for a place, so
what it finds is about the name and the remaining text together
(`of_findPlace`). Behind the place stands the code and a message; a
project is the last thing in the message and hence in the line, white
space apart (`Diagnostic.of_ofLine?`).

Consumed by the linking law (`Proofs/Linking.lean`).
-/
import ConsoleLinks.Line.CSharp
import ConsoleLinks.Proofs.Text.Runs
import ConsoleLinks.Proofs.Text.Search

namespace ConsoleLinks.CSharp

open Text

-- ============================================================= frames

/-- The link ` in ` and the file make up the text they are cut from. -/
theorem append_of_afterIn? {text link file : List Char}
    (h : afterIn? text = some (link, file)) : link ++ file = text := by
  unfold afterIn? at h
  dsimp only at h
  split at h
  next => cases h
  next rest hin =>
    split at h
    next => cases h
    next =>
      injection h with h
      injection h with hlink hfile
      subst hlink hfile
      have htext := List.takeWhile_append_dropWhile (p := isBlank) (l := text)
      have hrest := List.takeWhile_append_dropWhile (p := isBlank) (l := rest)
      rw [eq_append_of_afterWord? hin, ← hrest] at htext
      simpa using htext

/-- What is read from a closing parenthesis on: the link and the file. -/
def linked? : List Char → Option (List Char × List Char)
  | ')' :: rest => afterIn? rest
  | _ => none

/-- The call and its link, and the file, from what was passed in front of
the parenthesis and what was read from it on. -/
def behindCall (passed : List Char) (found : List Char × List Char) :
    List Char × List Char :=
  ((')' :: passed).reverse ++ found.1, found.2)

/-- The search for the file. -/
theorem scans_findFile : Scans linked? behindCall findFile where
  nil _ := rfl
  cons passed c rest := by
    rw [findFile]
    by_cases hclose : c = ')'
    · subst hclose
      rw [if_pos rfl, if_neg (by decide), linked?]
      cases afterIn? rest with
      | some found => rfl
      | none => rfl
    · have hnone : linked? (c :: rest) = none := by
        unfold linked?
        split
        next heq =>
          injection heq with heq _
          exact absurd heq hclose
        next => rfl
      rw [if_neg hclose, hnone, Option.elim_none]

/-- The call with its link and the file make up the text that is looked
through. -/
theorem append_of_findFile {text passed call file : List Char}
    (h : findFile passed text = some (call, file)) :
    call ++ file = passed.reverse ++ text := by
  obtain ⟨front, back, found, rfl, hread, hfound⟩ := scans_findFile.exists_of_eq_some h
  injection hfound with hcall hfile
  subst hcall hfile
  unfold linked? at hread
  split at hread
  next rest =>
    rw [← append_of_afterIn? hread]
    simp
  next => cases hread

/-- Body, `:line `, number and closing white space make up the text they
are cut from. -/
theorem append_of_cutNumber? {text body number closing : List Char}
    (h : cutNumber? text = some (body, number, closing)) :
    body ++ ":line ".toList ++ number ++ closing = text := by
  unfold cutNumber? at h
  dsimp only at h
  split at h
  next => cases h
  next =>
    split at h
    next => cases h
    next body' hbody =>
      injection h with h
      injection h with h₁ h
      injection h with h₂ h₃
      subst h₁ h₂ h₃
      rw [← beforeWord?_eq_some_iff.1 hbody, ← List.reverse_append,
        ← List.reverse_append, List.takeWhile_append_dropWhile,
        List.takeWhile_append_dropWhile, List.reverse_reverse]

-- ======================================================== diagnostics

/-- The part of a diagnostic's place that ends its range: nothing, or two
more numbers, each behind a comma. -/
def IsRange (range : List Char) : Prop :=
  range = []
    ∨ ∃ endLine endColumn : List Char,
        range = [','] ++ endLine ++ [','] ++ endColumn
          ∧ endLine ≠ [] ∧ (∀ c ∈ endLine, isDigit c = true)
          ∧ endColumn ≠ [] ∧ (∀ c ∈ endColumn, isDigit c = true)

/-- What shows the project of a diagnostic at the end of a text: a
character of white space and the project in brackets, and after them
nothing but white space. -/
def EndsInProject (text project : List Char) : Prop :=
  project ≠ [] ∧ (∀ c ∈ project, c ≠ '[' ∧ c ≠ ']')
    ∧ ∃ (before : List Char) (blank : Char), isBlank blank = true
        ∧ dropBlanksEnd text = before ++ [blank, '['] ++ project ++ [']']

/-- A number is a run of digits at the front of the text. -/
theorem of_number? {text digits rest : List Char}
    (h : number? text = some (digits, rest)) :
    text = digits ++ rest ∧ digits ≠ [] ∧ ∀ c ∈ digits, isDigit c = true := by
  unfold number? at h
  split at h
  next => cases h
  next hne =>
    injection h with h
    injection h with hdigits hrest
    subst hdigits hrest
    refine ⟨List.takeWhile_append_dropWhile.symm, by simpa using hne, ?_⟩
    intro c hc
    exact List.all_eq_true.1 List.all_takeWhile c hc

/-- A pair of numbers is two of them with a comma between. -/
theorem of_numberPair? {text first second rest : List Char}
    (h : numberPair? text = some (first, second, rest)) :
    text = first ++ [','] ++ second ++ rest
      ∧ (first ≠ [] ∧ ∀ c ∈ first, isDigit c = true)
      ∧ second ≠ [] ∧ ∀ c ∈ second, isDigit c = true := by
  unfold numberPair? at h
  split at h
  next first' rest' hfirst =>
    split at h
    next second' behind hsecond =>
      injection h with h
      injection h with h₁ h
      injection h with h₂ h₃
      subst h₁ h₂ h₃
      obtain ⟨htext, hdigits⟩ := of_number? hfirst
      obtain ⟨hrest, hdigits'⟩ := of_number? hsecond
      exact ⟨by rw [htext, hrest]; simp, hdigits, hdigits'⟩
    next => cases h
  next => cases h

/-- What follows an opening parenthesis in front of a place. -/
theorem of_place? {text line column range behind : List Char}
    (h : place? text = some (line, column, range, behind)) :
    text = line ++ [','] ++ column ++ range ++ [')'] ++ behind
      ∧ (line ≠ [] ∧ ∀ c ∈ line, isDigit c = true)
      ∧ (column ≠ [] ∧ ∀ c ∈ column, isDigit c = true) ∧ IsRange range := by
  unfold place? at h
  split at h
  next line' column' behind' hpair =>
    injection h with h
    injection h with h₁ h
    injection h with h₂ h
    injection h with h₃ h₄
    subst h₁ h₂ h₃ h₄
    obtain ⟨htext, hline, hcolumn⟩ := of_numberPair? hpair
    exact ⟨by rw [htext]; simp, hline, hcolumn, Or.inl rfl⟩
  next line' column' rest hpair =>
    split at h
    next endLine endColumn behind' hend =>
      injection h with h
      injection h with h₁ h
      injection h with h₂ h
      injection h with h₃ h₄
      subst h₁ h₂ h₃ h₄
      obtain ⟨htext, hline, hcolumn⟩ := of_numberPair? hpair
      obtain ⟨hrest, hline', hcolumn'⟩ := of_numberPair? hend
      exact ⟨by rw [htext, hrest]; simp, hline, hcolumn,
        Or.inr ⟨endLine, endColumn, rfl, hline'.1, hline'.2, hcolumn'.1, hcolumn'.2⟩⟩
    next => cases h
  next => cases h

/-- What follows a word ends the text that begins with it. -/
theorem suffix_of_afterWord? {word text rest : List Char}
    (h : afterWord? word text = some rest) : rest <:+ text :=
  ⟨word, (eq_append_of_afterWord? h).symm⟩

/-- The message ends the text that the code stands in. -/
theorem suffix_of_afterCode? {text message : List Char}
    (h : afterCode? text = some message) : message <:+ text := by
  have hskip (p : Char → Bool) (s : List Char) : s.dropWhile p <:+ s :=
    List.dropWhile_suffix p
  unfold afterCode? at h
  split at h
  next rest hcolon =>
    dsimp only at h
    split at h
    next => cases h
    next =>
      split at h
      next => cases h
      next code hword =>
        split at h
        next => cases h
        next =>
          split at h
          next message' hmessage =>
            injection h with h
            subst h
            have hcode : code <:+ dropBlanks rest := by
              cases herror : afterWord? "error".toList (dropBlanks rest) with
              | some code' =>
                  rw [herror] at hword
                  injection hword with hword
                  subst hword
                  exact suffix_of_afterWord? herror
              | none =>
                  rw [herror] at hword
                  exact suffix_of_afterWord? hword
            have hbehind : message' <:+ code := by
              refine List.IsSuffix.trans (List.suffix_cons ':' message') ?_
              rw [← hmessage]
              exact (hskip _ _).trans
                ((hskip _ _).trans ((hskip _ _).trans (hskip _ _)))
            have hfront : rest <:+ text := by
              refine List.IsSuffix.trans (List.suffix_cons ':' rest) ?_
              rw [← hcolon]
              exact hskip _ _
            exact hbehind.trans (hcode.trans ((hskip _ _).trans hfront))
          next => cases h
  next => cases h

/-- What is found at the end of a message: the project in brackets, and
all in front of the white space that sets it off. -/
theorem of_projectAtEnd? {message before project : List Char}
    (h : projectAtEnd? message = some (before, project)) :
    project ≠ [] ∧ (∀ c ∈ project, c ≠ '[' ∧ c ≠ ']')
      ∧ ∃ blank, isBlank blank = true
          ∧ dropBlanksEnd message = before ++ [blank, '['] ++ project ++ [']'] := by
  unfold projectAtEnd? at h
  split at h
  next rest hclose =>
    dsimp only at h
    split at h
    next blank before' hopen =>
      split at h
      next hblank =>
        injection h with h
        injection h with hbefore hproject
        subst hbefore hproject
        simp only [Bool.and_eq_true, Bool.not_eq_true'] at hblank
        refine ⟨by simpa using hblank.2, ?_, blank, hblank.1, ?_⟩
        · intro c hc
          have := List.all_eq_true.1 List.all_takeWhile c (List.mem_reverse.1 hc)
          simpa using this
        · have hrest := eq_takeWhile_append_of_dropWhile hopen
          unfold dropBlanksEnd
          rw [hclose]
          refine (congrArg (fun t => (']' :: t).reverse) hrest).trans ?_
          simp
      next => cases h
    next => cases h
  next => cases h

/-- A project that is found at the end of a message is shown there. -/
theorem endsInProject_of_projectAtEnd? {message before project : List Char}
    (h : projectAtEnd? message = some (before, project)) :
    EndsInProject message project := by
  obtain ⟨hne, hplain, blank, hblank, hend⟩ := of_projectAtEnd? h
  exact ⟨hne, hplain, before, blank, hblank, hend⟩

/-- A message that names a project ends in it. -/
theorem endsInProject_of_project? {message project : List Char}
    (h : project? message = some (some project)) :
    EndsInProject message project := by
  unfold project? at h
  split at h
  next before name hend =>
    split at h
    next => cases h
    next =>
      injection h with h
      injection h with h
      subst h
      exact endsInProject_of_projectAtEnd? hend
  next =>
    split at h
    next => cases h
    next => cases h

/-- A text ends in the project that its end part ends in. -/
theorem EndsInProject.of_suffix {text message project : List Char}
    (h : EndsInProject message project) (hsuffix : message <:+ text) :
    EndsInProject text project := by
  obtain ⟨hne, hplain, before, blank, hblank, hend⟩ := h
  obtain ⟨front, htext⟩ := hsuffix
  refine ⟨hne, hplain, front ++ before, blank, hblank, ?_⟩
  rw [← htext, dropBlanksEnd_append_of_last hend front]
  simp

/-- What is read from an opening parenthesis on: the numbers and the
project. -/
def report? : List Char →
    Option (List Char × List Char × List Char × Option (List Char))
  | '(' :: rest =>
    match place? rest with
    | some (line, column, range, behind) =>
      match afterCode? behind with
      | some message => (project? message).map fun project => (line, column, range, project)
      | none => none
    | none => none
  | _ => none

/-- It is read part by part. -/
theorem report?_eq_some_iff {text line column range : List Char}
    {project : Option (List Char)} :
    report? text = some (line, column, range, project)
      ↔ ∃ rest behind message, text = '(' :: rest
          ∧ place? rest = some (line, column, range, behind)
          ∧ afterCode? behind = some message ∧ project? message = some project := by
  constructor
  · intro h
    unfold report? at h
    split at h
    next rest =>
      split at h
      next line' column' range' behind hplace =>
        split at h
        next message hcode =>
          obtain ⟨project', hproject, hfound⟩ := Option.map_eq_some_iff.1 h
          injection hfound with hline hfound
          injection hfound with hcolumn hfound
          injection hfound with hrange hfound
          subst hline hcolumn hrange hfound
          exact ⟨rest, behind, message, rfl, hplace, hcode, hproject⟩
        next => cases h
      next => cases h
    next => cases h
  · rintro ⟨rest, behind, message, rfl, hplace, hcode, hproject⟩
    simp only [report?, hplace, hcode, hproject, Option.map_some]

/-- The diagnostic of what was passed in front of the parenthesis and what
was read from it on. -/
def reported (indent passed : List Char)
    (found : List Char × List Char × List Char × Option (List Char)) : Diagnostic :=
  ⟨indent, passed.reverse, found.1, found.2.1, found.2.2.1, found.2.2.2⟩

/-- The search for the place. -/
theorem scans_findPlace (indent : List Char) :
    Scans report? (reported indent) (findPlace indent) where
  nil _ := rfl
  cons file c rest := by
    rw [findPlace]
    by_cases hopen : c = '('
    · subst hopen
      rw [report?]
      simp only [if_true]
      cases place? rest with
      | none => rfl
      | some found =>
          obtain ⟨line, column, range, behind⟩ := found
          dsimp only
          cases afterCode? behind with
          | none => rfl
          | some message =>
              dsimp only
              cases project? message with
              | none => rfl
              | some project => rfl
    · have hnone : report? (c :: rest) = none := by
        unfold report?
        split
        next heq =>
          injection heq with heq _
          exact absurd heq hopen
        next => rfl
      simp only [if_neg hopen, hnone, Option.elim_none]

/-- What the search for a place finds: the file name gathered so far and
the text looked through are file, place and what follows them. -/
theorem of_findPlace {indent file text : List Char} {d : Diagnostic}
    (h : findPlace indent file text = some d) :
    d.indent = indent ∧ IsRange d.range
      ∧ ∃ behind, file.reverse ++ text = d.file ++ d.place ++ behind
          ∧ ∀ project, d.project = some project → EndsInProject behind project := by
  obtain ⟨front, _, ⟨line, column, range, project⟩, rfl, hread, rfl⟩ :=
    (scans_findPlace indent).exists_of_eq_some h
  obtain ⟨_, behind, message, rfl, hplace, hcode, hproject⟩ := report?_eq_some_iff.1 hread
  obtain ⟨rfl, -, -, hrange⟩ := of_place? hplace
  refine ⟨rfl, hrange, behind, by simp [reported, Diagnostic.place], fun q hq => ?_⟩
  have hnamed : project? message = some (some q) := hproject.trans (congrArg some hq)
  exact (endsInProject_of_project? hnamed).of_suffix (suffix_of_afterCode? hcode)

/-- A diagnostic's parts make up the line up to what follows its place,
and its project is shown at the end of that. -/
theorem Diagnostic.of_ofLine? {line : List Char} {d : Diagnostic}
    (h : Diagnostic.ofLine? line = some d) :
    IsRange d.range
      ∧ ∃ behind, line = d.indent ++ d.file ++ d.place ++ behind
          ∧ ∀ project, d.project = some project →
              EndsInProject behind project := by
  unfold Diagnostic.ofLine? at h
  split at h
  next => cases h
  next c rest hindent =>
    obtain ⟨hd, hrange, behind, htext, hproject⟩ := of_findPlace h
    refine ⟨hrange, behind, ?_, hproject⟩
    rw [eq_takeWhile_append_of_dropWhile hindent, hd, List.append_assoc,
      List.append_assoc, ← List.append_assoc d.file, ← htext]
    rfl

-- =========================================================== verdicts

/-- The location of a recognized line is that of a frame or of a
diagnostic, its numbers being usable. -/
theorem of_verdict_location {line : List Char} {m : LineMatch}
    {place : SourceLocation} (h : verdict line = .recognized m)
    (hplace : m.location? = some place) :
    (∃ f n, Frame.ofLine? line = some f ∧ position? f.number = some n
        ∧ m = .stackFrame (f.location n))
      ∨ ∃ d n column, Diagnostic.ofLine? line = some d
          ∧ position? d.lineNumber = some n
          ∧ position? d.columnNumber = some column
          ∧ m = .compilerDiagnostic (d.location n column) := by
  unfold verdict at h
  split at h
  next f hf =>
    split at h
    next n hn =>
      injection h with h
      exact Or.inl ⟨f, n, hf, hn, h.symm⟩
    next => cases h
  next =>
    split at h
    next d hd =>
      split at h
      next n column hn hcolumn =>
        injection h with h
        exact Or.inr ⟨d, n, column, hd, hn, hcolumn, h.symm⟩
      next => cases h
    next =>
      split at h
      next =>
        injection h with h
        subst h
        cases hplace
      next =>
        split at h
        next =>
          injection h with h
          subst h
          cases hplace
        next => cases h

end ConsoleLinks.CSharp
