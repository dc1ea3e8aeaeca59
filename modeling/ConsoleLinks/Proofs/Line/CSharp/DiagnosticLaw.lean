/-
The law of diagnostics: the first report in a line counts, and the project
comes from the far end.

# The form

A report is a place in parentheses, a code and a message (`Report`). A
diagnostic is white space, a file name that begins with something
visible, and the first report behind that first character
(`DiagnosticForm`). So a file name may hold parentheses and numbers, and a
message further reports.

# The law

A line of this form that is no frame is a diagnostic when both numbers of
its place are usable, and it shows the project exactly when its message
ends in one. With another number it is not recognized at all, neither by
a later report nor as a header or a marker. A line without the form is no
diagnostic (`detect_compilerDiagnostic`).

# The proof

`findPlace` is a search as well (`scans_findPlace`), and what it finds are
the reports (`isSome_report?_iff`). On one line every message
can be read, so a report does not depend on what stands behind its code
(`project?_of_line`).
-/
import ConsoleLinks.Line.Ecosystem
import ConsoleLinks.Proofs.Line.CSharp.Diagnostics
import ConsoleLinks.Proofs.Line.CSharp.Frames
import ConsoleLinks.Proofs.Text.Position
import ConsoleLinks.Proofs.Text.Search

namespace ConsoleLinks.CSharp

open Text Text.Pattern

-- ============================================================ the form

/-- What follows the file name of a diagnostic. -/
structure Report where
  lineNumber : List Char
  columnNumber : List Char
  /-- The end of the range, with its two commas, where one is given. -/
  range : List Char
  /-- Kind and serial, with the colons on either side. -/
  code : List Char
  message : List Char

namespace Report

/-- The parentheses at its front. -/
def place (r : Report) : List Char :=
  ['('] ++ r.lineNumber ++ [','] ++ r.columnNumber ++ r.range ++ [')']

/-- The text the parts stand for. -/
def text (r : Report) : List Char := r.place ++ (r.code ++ r.message)

/-- What each part has to be. -/
structure WellFormed (r : Report) : Prop where
  lineNumber : digits.Fits r.lineNumber
  columnNumber : digits.Fits r.columnNumber
  range : IsRange r.range
  code : codePattern.Fits r.code

end Report

/-- A text that begins with a place and a code behind it. -/
def BeginsReport (text : List Char) : Prop := ∃ r : Report, r.WellFormed ∧ text = r.text

/-- The parts of a diagnostic. -/
structure DiagnosticForm where
  indent : List Char
  /-- The first character of the file name. -/
  first : Char
  /-- The rest of it. -/
  name : List Char
  report : Report

namespace DiagnosticForm

def file (f : DiagnosticForm) : List Char := f.first :: f.name

/-- The line the parts stand for. -/
def text (f : DiagnosticForm) : List Char := f.indent ++ (f.file ++ f.report.text)

/-- What each part has to be. -/
structure WellFormed (f : DiagnosticForm) : Prop where
  indent : ∀ c ∈ f.indent, isBlank c = true
  first : isBlank f.first = false
  report : f.report.WellFormed
  /-- No report begins earlier in the file name. -/
  leftmost : FirstCut BeginsReport (f.name ++ f.report.text) f.name f.report.text

/-- The place that a diagnostic shows when its numbers are line `n` and
the given column. -/
def place (f : DiagnosticForm) (n column : UInt32) (project : Option String) :
    SourceLocation where
  filePath := String.ofList f.file
  line := n
  column := some column
  projectFile := project
  symbol := none
  span := .after f.indent (f.file ++ f.report.place)

/-- The parts as the reader of diagnostics has them. -/
def diagnostic (f : DiagnosticForm) (project : Option (List Char)) : Diagnostic :=
  ⟨f.indent, f.file, f.report.lineNumber, f.report.columnNumber, f.report.range, project⟩

end DiagnosticForm

-- ========================================================= the project

/-- A project is found where a message ends in one. -/
theorem exists_projectAtEnd?_iff {message project : List Char} :
    (∃ before, projectAtEnd? message = some (before, project))
      ↔ EndsInProject message project := by
  constructor
  · rintro ⟨before, h⟩
    exact endsInProject_of_projectAtEnd? h
  · rintro ⟨hne, hplain, before, blank, hblank, hend⟩
    obtain ⟨closing, hclosing, hmessage⟩ := exists_closing hend
    have hplain' : ∀ c ∈ project, (c ≠ '[' && c ≠ ']') = true := fun c hc => by
      simpa using hplain c hc
    refine ⟨before, ?_⟩
    rw [hmessage, ← projectAtEnd?_append hblank hne hplain' (fits_many_one.1 hclosing) before]
    simp

/-- A message on one line is read, whatever it says, and names the project
that it ends in. -/
theorem project?_of_line {message : List Char} (h : '\n' ∉ message) :
    ∃ project, project? message = some project
      ∧ ∀ q, project = some q ↔ EndsInProject message q := by
  have hend : '\n' ∉ dropBlanksEnd message := fun hmem => h (mem_of_mem_dropBlanksEnd hmem)
  simp only [← exists_projectAtEnd?_iff]
  unfold project?
  cases hfound : projectAtEnd? message with
  | none =>
      rw [breaksLine_eq_false_iff.2 hend]
      exact ⟨none, rfl, by simp⟩
  | some found =>
      obtain ⟨before, project⟩ := found
      obtain ⟨-, -, blank, -, hshown⟩ := of_projectAtEnd? hfound
      rw [hshown] at hend
      have hbefore : '\n' ∉ before := fun hmem => hend (by simp [hmem])
      dsimp only
      rw [breaksLine_eq_false_iff.2 hbefore]
      exact ⟨some project, rfl, by simp⟩

-- ========================================================== the search

/-- What is read is a report. -/
theorem report?_eq_some_iff_text {text line column range : List Char}
    {project : Option (List Char)} :
    report? text = some (line, column, range, project)
      ↔ ∃ code message, Report.WellFormed ⟨line, column, range, code, message⟩
          ∧ text = Report.text ⟨line, column, range, code, message⟩
          ∧ project? message = some project := by
  rw [report?_eq_some_iff]
  constructor
  · rintro ⟨_, behind, message, rfl, hplace, hcode, hproject⟩
    obtain ⟨hline, hcolumn, hrange, rfl⟩ := place?_eq_some_iff.1 hplace
    obtain ⟨code, hfits, rfl⟩ := afterCode?_eq_some_iff.1 hcode
    exact ⟨code, message, ⟨hline, hcolumn, hrange, hfits⟩,
      by simp [Report.text, Report.place], hproject⟩
  · rintro ⟨code, message, hreport, rfl, hproject⟩
    have hplace := place?_append hreport.lineNumber hreport.columnNumber hreport.range
      (code ++ message)
    exact ⟨_, _, message, by simp [Report.text, Report.place], hplace,
      afterCode?_eq_some_iff.2 ⟨code, hreport.code, rfl⟩, hproject⟩

/-- On one line something is read where a report begins. -/
theorem isSome_report?_iff {text : List Char} (hline : '\n' ∉ text) :
    (report? text).isSome = true ↔ BeginsReport text := by
  rw [Option.isSome_iff_exists]
  constructor
  · rintro ⟨⟨line, column, range, project⟩, hread⟩
    obtain ⟨code, message, hreport, htext, -⟩ := report?_eq_some_iff_text.1 hread
    exact ⟨_, hreport, htext⟩
  · rintro ⟨r, hreport, rfl⟩
    have hmessage : '\n' ∉ r.message := fun hmem => hline (by simp [Report.text, hmem])
    obtain ⟨project, hproject, -⟩ := project?_of_line hmessage
    exact ⟨_, report?_eq_some_iff_text.2 ⟨r.code, r.message, hreport, rfl, hproject⟩⟩

/-- The first report of a line is found. -/
theorem findPlace_eq_some_iff {text indent file : List Char} {d : Diagnostic}
    (hline : '\n' ∉ text) :
    findPlace indent file text = some d
      ↔ ∃ front, ∃ r : Report, ∃ project, r.WellFormed
          ∧ FirstCut BeginsReport text front r.text ∧ project? r.message = some project
          ∧ d = ⟨indent, file.reverse ++ front, r.lineNumber, r.columnNumber, r.range,
              project⟩ := by
  rw [(scans_findPlace indent).eq_some_iff rfl (fun _ => isSome_report?_iff) hline]
  constructor
  · rintro ⟨front, _, ⟨line, column, range, project⟩, hcut, hread, rfl⟩
    obtain ⟨code, message, hreport, rfl, hproject⟩ := report?_eq_some_iff_text.1 hread
    exact ⟨front, ⟨line, column, range, code, message⟩, project, hreport, hcut, hproject,
      by simp [reported]⟩
  · rintro ⟨front, r, project, hreport, hcut, hproject, rfl⟩
    exact ⟨front, r.text, (r.lineNumber, r.columnNumber, r.range, project), hcut,
      report?_eq_some_iff_text.2 ⟨r.code, r.message, hreport, rfl, hproject⟩,
      by simp [reported]⟩

-- ===================================================== the two readings

/-- What the reader of diagnostics finds is a line of the form. -/
theorem Diagnostic.ofLine?_eq_some_iff {line : List Char} {d : Diagnostic}
    (hline : '\n' ∉ line) :
    Diagnostic.ofLine? line = some d
      ↔ ∃ f : DiagnosticForm, ∃ project, f.WellFormed ∧ line = f.text
          ∧ project? f.report.message = some project ∧ d = f.diagnostic project := by
  unfold Diagnostic.ofLine?
  constructor
  · intro h
    split at h
    next => cases h
    next first rest hvisible =>
      have htext := eq_takeWhile_append_of_dropWhile hvisible
      have hrest : '\n' ∉ rest := fun hmem => hline (by rw [htext]; simp [hmem])
      obtain ⟨name, r, project, hreport, hcut, hproject, rfl⟩ :=
        (findPlace_eq_some_iff hrest).1 h
      have hshape : rest = name ++ r.text := hcut.cut
      rw [hshape] at hcut htext
      exact ⟨⟨line.takeWhile isBlank, first, name, r⟩, project,
        ⟨List.all_eq_true.1 List.all_takeWhile, head_of_dropWhile_eq_cons hvisible, hreport,
          hcut⟩, htext, hproject, rfl⟩
  · rintro ⟨f, project, hf, rfl, hproject, rfl⟩
    have hstart : ∀ c ∈ (f.file ++ f.report.text).head?, isBlank c = false :=
      boundary_cons hf.first _
    have hrest : '\n' ∉ f.name ++ f.report.text := fun hmem =>
      hline (List.mem_append_right _ (List.mem_cons_of_mem _ hmem))
    have hfound : findPlace f.indent [f.first] (f.name ++ f.report.text)
        = some (f.diagnostic project) :=
      (findPlace_eq_some_iff hrest).2
        ⟨f.name, f.report, project, hf.report, hf.leftmost, hproject, rfl⟩
    rw [DiagnosticForm.text, dropWhile_append_of_boundary hf.indent hstart,
      takeWhile_append_of_boundary hf.indent hstart]
    exact hfound

/-- A line of the form is read, with the project that its message ends
in. -/
theorem DiagnosticForm.WellFormed.exists_ofLine? {f : DiagnosticForm} (hf : f.WellFormed)
    (hline : '\n' ∉ f.text) :
    ∃ project, Diagnostic.ofLine? f.text = some (f.diagnostic project)
      ∧ ∀ q, project = some q ↔ EndsInProject f.report.message q := by
  have hmessage : '\n' ∉ f.report.message := fun hmem =>
    hline (by simp [DiagnosticForm.text, Report.text, hmem])
  obtain ⟨project, hproject, hends⟩ := project?_of_line hmessage
  exact ⟨project,
    (Diagnostic.ofLine?_eq_some_iff hline).2 ⟨f, project, hf, rfl, hproject, rfl⟩, hends⟩

/-- A line without the form is not. -/
theorem Diagnostic.ofLine?_eq_none_iff {line : List Char} (hline : '\n' ∉ line) :
    Diagnostic.ofLine? line = none
      ↔ ∀ f : DiagnosticForm, f.WellFormed → line ≠ f.text := by
  constructor
  · rintro h f hf rfl
    obtain ⟨project, hread, -⟩ := hf.exists_ofLine? hline
    rw [h] at hread
    cases hread
  · intro hform
    refine Option.eq_none_iff_forall_ne_some.2 fun d hread => ?_
    obtain ⟨f, -, hf, htext, -⟩ := (ofLine?_eq_some_iff hline).1 hread
    exact hform f hf htext

-- ============================================================= the law

/-- What the grammar makes of a line that is read as a diagnostic and not
as a frame. -/
theorem detect_of_diagnostic {line : String} {d : Diagnostic}
    (hframe : Frame.ofLine? line.toList = none)
    (h : Diagnostic.ofLine? line.toList = some d) :
    Ecosystem.csharp.detect line
      = (position? d.lineNumber).bind fun n =>
          (position? d.columnNumber).map fun column =>
            .compilerDiagnostic (d.location n column) := by
  rw [Ecosystem.detect, Ecosystem.verdict, verdict, hframe, h]
  dsimp only
  cases position? d.lineNumber with
  | none => rfl
  | some n =>
      cases position? d.columnNumber with
      | none => rfl
      | some column => rfl

/-- The law of diagnostics, for lines that are no frames. The first report
behind the first visible character counts. With usable numbers the line is
a diagnostic of the file in front of the report, for the project that the
message ends in; otherwise it is not recognized. Without a report it is no
diagnostic. -/
theorem detect_compilerDiagnostic (line : String) (hline : '\n' ∉ line.toList)
    (hframe : ¬ framePattern.Fits line.toList) :
    (∀ f : DiagnosticForm, f.WellFormed → line.toList = f.text →
        (∀ n column, IsPosition f.report.lineNumber n →
          IsPosition f.report.columnNumber column →
          ∃ project : Option String,
            (∀ q, project = some q ↔ EndsInProject f.report.message q.toList)
              ∧ Ecosystem.csharp.detect line
                  = some (.compilerDiagnostic (f.place n column project)))
          ∧ ((∀ n, ¬ IsPosition f.report.lineNumber n)
                ∨ (∀ column, ¬ IsPosition f.report.columnNumber column) →
              Ecosystem.csharp.detect line = none))
      ∧ ((∀ f : DiagnosticForm, f.WellFormed → line.toList ≠ f.text) →
          ∀ place, Ecosystem.csharp.detect line ≠ some (.compilerDiagnostic place)) := by
  have hnone : Frame.ofLine? line.toList = none := by
    rw [fits_framePattern, Option.not_isSome_iff_eq_none] at hframe
    exact hframe
  refine ⟨fun f hf htext => ?_, fun hform place hdetect => ?_⟩
  · obtain ⟨project, hread, hends⟩ := hf.exists_ofLine? (htext ▸ hline)
    rw [← htext] at hread
    rw [detect_of_diagnostic hnone hread]
    refine ⟨fun n column hn hcolumn => ⟨project.map String.ofList, fun q => ?_, ?_⟩, ?_⟩
    · rw [← hends, Option.map_eq_some_iff]
      constructor
      · rintro ⟨q', rfl, rfl⟩
        rw [String.toList_ofList]
      · intro h
        exact ⟨q.toList, h, String.ofList_toList⟩
    · have hn' : position? (f.diagnostic project).lineNumber = some n :=
        position?_eq_some_iff.2 hn
      have hcolumn' : position? (f.diagnostic project).columnNumber = some column :=
        position?_eq_some_iff.2 hcolumn
      rw [hn', hcolumn']
      rfl
    · rintro (hbad | hbad)
      · have hn : position? (f.diagnostic project).lineNumber = none :=
          position?_eq_none_iff.2 hbad
        rw [hn]
        rfl
      · have hcolumn : position? (f.diagnostic project).columnNumber = none :=
          position?_eq_none_iff.2 hbad
        rw [hcolumn]
        exact Option.bind_fun_none _
  · have hverdict : verdict line.toList = .recognized (.compilerDiagnostic place) :=
      Verdict.match?_eq_some_iff.1 hdetect
    have hread := (Diagnostic.ofLine?_eq_none_iff hline).2 hform
    rcases of_verdict_location hverdict rfl with ⟨parts, n, -, -, hplace⟩ | ⟨d, n, column, hd, -⟩
    · cases hplace
    · rw [hread] at hd
      cases hd

/-- A file name with numbers in parentheses, and a message with a further
report, brackets and a project; a header with a line zero in front of a
usable report; a place with no code behind it. -/
theorem detect_compilerDiagnostic_reportsInMessage :
    Ecosystem.csharp.detect
        "\td(1)/ä (x)/c.cs(07,3,08,4) : warning CS0168 : x(1,2): error CS1: [a] y [p q] "
      = some (.compilerDiagnostic
          { filePath := "d(1)/ä (x)/c.cs"
            line := 7
            column := some 3
            projectFile := some "p q"
            symbol := none
            span := ⟨1, 28⟩ })
      ∧ isHeader "Unhandled Exception: A: b(0,1): error CS1: c(2,3): error CS2: d".toList = true
      ∧ Ecosystem.csharp.detect
          "Unhandled Exception: A: b(0,1): error CS1: c(2,3): error CS2: d" = none
      ∧ ∀ place, Ecosystem.csharp.detect "x(1,2) error CS1: y"
          ≠ some (.compilerDiagnostic place) := by
  refine ⟨?_, by decide +kernel, ?_, ?_⟩
  · have hread : Diagnostic.ofLine?
        "\td(1)/ä (x)/c.cs(07,3,08,4) : warning CS0168 : x(1,2): error CS1: [a] y [p q] ".toList
          = some ⟨['\t'], "d(1)/ä (x)/c.cs".toList, ['0', '7'], ['3'], ",08,4".toList,
              some "p q".toList⟩ := by
      decide +kernel
    obtain ⟨f, project, hf, htext, hproject, hparts⟩ :=
      (Diagnostic.ofLine?_eq_some_iff (by decide)).1 hread
    obtain rfl : some "p q".toList = project := congrArg Diagnostic.project hparts
    have hline : ['0', '7'] = f.report.lineNumber := congrArg Diagnostic.lineNumber hparts
    have hcolumn : ['3'] = f.report.columnNumber := congrArg Diagnostic.columnNumber hparts
    obtain ⟨shown, hshown, hdetect⟩ := ((detect_compilerDiagnostic _ (by decide)
      (fits_framePattern.not.2 (by decide +kernel))).1 f hf htext).1 7 3
        (position?_eq_some_iff.1 (by rw [← hline]; decide +kernel))
        (position?_eq_some_iff.1 (by rw [← hcolumn]; decide +kernel))
    have hends : shown = some "p q" := (hshown "p q").2 (endsInProject_of_project? hproject)
    have hplace : f.place 7 3 (some "p q")
        = (f.diagnostic (some "p q".toList)).location 7 3 := rfl
    rw [hdetect, hends, hplace, ← hparts]
    decide +kernel
  · have hread : Diagnostic.ofLine?
        "Unhandled Exception: A: b(0,1): error CS1: c(2,3): error CS2: d".toList
          = some ⟨[], "Unhandled Exception: A: b".toList, ['0'], ['1'], [], none⟩ := by
      decide +kernel
    obtain ⟨f, project, hf, htext, -, hparts⟩ :=
      (Diagnostic.ofLine?_eq_some_iff (by decide)).1 hread
    have hline : ['0'] = f.report.lineNumber := congrArg Diagnostic.lineNumber hparts
    have hzero : position? f.report.lineNumber = none := by
      rw [← hline]
      decide +kernel
    exact ((detect_compilerDiagnostic _ (by decide)
      (fits_framePattern.not.2 (by decide +kernel))).1 f hf htext).2
        (.inl (position?_eq_none_iff.1 hzero))
  · exact (detect_compilerDiagnostic _ (by decide)
      (fits_framePattern.not.2 (by decide +kernel))).2
        ((Diagnostic.ofLine?_eq_none_iff (by decide)).1 (by decide +kernel))

end ConsoleLinks.CSharp
