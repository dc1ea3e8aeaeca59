/-
The law of frames with a source file: the file of a frame runs from the
first link behind a closing parenthesis to the last `:line `.

# The form

A frame is white space, `at`, more white space and a call that begins
with something visible; then a closing parenthesis, a link and the file,
`:line `, a number, and white space at the end (`FrameForm`). The mark in
front of the number is the last one in the line, and the parenthesis is
the first one that a link and something visible follow in front of that
mark (`FrameForm.WellFormed`). All marks in between belong to the file.

# The law

A line is a stack frame exactly when it has this form and shows a usable
number. With the form and another number it is not recognized at all,
whatever else it looks like (`detect_stackFrame`).

# The proof

The two ends are cut off apart. From the end: digits and white space hold
no colon, so the last mark is the one in front of them
(`lastCut_of_not_mem`). From the front: `findFile` is a search
(`scans_findFile`), and what it finds are the links (`isSome_linked?_iff`),
so it cuts at the first of them (`findFile_eq_some_iff`).
-/
import ConsoleLinks.Line.Ecosystem
import ConsoleLinks.Proofs.Line.CSharp.Frames
import ConsoleLinks.Proofs.Text.Position
import ConsoleLinks.Proofs.Text.Search

namespace ConsoleLinks.CSharp

open Text Text.Pattern

-- ============================================================ the form

/-- What links a call to its file: `in` between white space. -/
def IsLink (link : List Char) : Prop :=
  ∃ before behind, link = before ++ "in".toList ++ behind
    ∧ before ≠ [] ∧ (∀ c ∈ before, isBlank c = true)
    ∧ behind ≠ [] ∧ ∀ c ∈ behind, isBlank c = true

/-- A text that begins with something visible. -/
def OpensVisibly (text : List Char) : Prop := ∃ c rest, text = c :: rest ∧ isBlank c = false

/-- A closing parenthesis, and behind it a link and something visible. -/
def ClosesCall (text : List Char) : Prop :=
  ∃ link file, text = ')' :: (link ++ file) ∧ IsLink link ∧ OpensVisibly file

/-- The parts of a frame. -/
structure FrameForm where
  indent : List Char
  /-- The white space behind `at`. -/
  gap : List Char
  /-- The first character of the call. -/
  first : Char
  /-- The rest of the call, up to the closing parenthesis. -/
  call : List Char
  link : List Char
  file : List Char
  number : List Char
  closing : List Char

namespace FrameForm

/-- What stands between the first character of the call and the mark in
front of the number. -/
def body (f : FrameForm) : List Char := f.call ++ ')' :: (f.link ++ f.file)

/-- All in front of the mark. -/
def front (f : FrameForm) : List Char :=
  f.indent ++ ("at".toList ++ (f.gap ++ f.first :: f.body))

/-- The mark and all behind it. -/
def back (f : FrameForm) : List Char := ":line ".toList ++ (f.number ++ f.closing)

/-- The line the parts stand for. -/
def text (f : FrameForm) : List Char := f.front ++ f.back

/-- What each part has to be. -/
structure WellFormed (f : FrameForm) : Prop where
  indent : ∀ c ∈ f.indent, isBlank c = true
  gap : f.gap ≠ [] ∧ ∀ c ∈ f.gap, isBlank c = true
  first : isBlank f.first = false
  link : IsLink f.link
  file : OpensVisibly f.file
  /-- No earlier parenthesis has a link and something visible behind it. -/
  leftmost : FirstCut ClosesCall f.body f.call (')' :: (f.link ++ f.file))
  number : f.number ≠ [] ∧ ∀ c ∈ f.number, isDigit c = true
  closing : ∀ c ∈ f.closing, isBlank c = true
  /-- The mark does not stand in the line again. -/
  rightmost : LastCut (fun t => ":line ".toList <+: t) f.text f.front f.back

/-- All in front of the file. -/
def opening (f : FrameForm) : List Char :=
  f.indent ++ "at".toList ++ f.gap ++ f.first :: f.call ++ ')' :: f.link

/-- The place that a frame shows when its number is line `n`. -/
def place (f : FrameForm) (n : UInt32) : SourceLocation where
  filePath := String.ofList f.file
  line := n
  column := none
  projectFile := none
  symbol := none
  span := .after f.opening (f.file ++ ":line ".toList ++ f.number)

/-- The parts as the reader of frames has them. -/
def frame (f : FrameForm) : Frame := ⟨f.opening, f.file, f.number, f.closing⟩

end FrameForm

-- ========================================================== the search

theorem isLink_iff {link : List Char} :
    IsLink link ↔ (gap ++ word "in" ++ gap).Fits link := by
  constructor
  · rintro ⟨before, behind, rfl, hne, hbefore, hne', hbehind⟩
    exact ((fits_oneOrMore_one.2 ⟨hne, hbefore⟩).append (fits_word "in")).append
      (fits_oneOrMore_one.2 ⟨hne', hbehind⟩)
  · intro h
    obtain ⟨_, behind, rfl, h, hbehind⟩ := h
    obtain ⟨before, _, rfl, hbefore, rfl⟩ := h
    obtain ⟨hne, hbefore⟩ := fits_oneOrMore_one.1 hbefore
    obtain ⟨hne', hbehind⟩ := fits_oneOrMore_one.1 hbehind
    exact ⟨before, behind, rfl, hne, hbefore, hne', hbehind⟩

/-- What is read from a parenthesis on. -/
theorem linked?_eq_some_iff {text link file : List Char} (hline : '\n' ∉ text) :
    linked? text = some (link, file)
      ↔ text = ')' :: (link ++ file) ∧ IsLink link ∧ OpensVisibly file := by
  constructor
  · intro h
    unfold linked? at h
    split at h
    next rest =>
      obtain ⟨rfl, hlink, hfile⟩ := afterIn?_eq_some_iff.1 h
      exact ⟨rfl, isLink_iff.2 hlink, (fits_mark_line.1 hfile).1⟩
    next => cases h
  · rintro ⟨rfl, hlink, hfile⟩
    have hfile' : '\n' ∉ file := fun hmem => hline (by simp [hmem])
    exact afterIn?_eq_some_iff.2 ⟨rfl, isLink_iff.1 hlink, fits_mark_line.2 ⟨hfile, hfile'⟩⟩

/-- Something is read where a call is closed. -/
theorem isSome_linked?_iff {text : List Char} (hline : '\n' ∉ text) :
    (linked? text).isSome = true ↔ ClosesCall text := by
  rw [Option.isSome_iff_exists, Prod.exists]
  simp only [linked?_eq_some_iff hline]
  exact Iff.rfl

/-- A file is found behind the first parenthesis that closes the call. -/
theorem findFile_eq_some_iff {text passed call file : List Char} (hline : '\n' ∉ text) :
    findFile passed text = some (call, file)
      ↔ ∃ front link, FirstCut ClosesCall text front (')' :: (link ++ file))
          ∧ IsLink link ∧ OpensVisibly file
          ∧ call = passed.reverse ++ front ++ ')' :: link := by
  rw [scans_findFile.eq_some_iff rfl (fun _ => isSome_linked?_iff) hline]
  constructor
  · rintro ⟨front, back, ⟨link, file'⟩, hcut, hread, hfound⟩
    injection hfound with hcall hfile
    subst hcall hfile
    have hback : '\n' ∉ back := fun hmem =>
      hline (by rw [hcut.cut]; exact List.mem_append_right front hmem)
    obtain ⟨rfl, hlink, hfile⟩ := (linked?_eq_some_iff hback).1 hread
    exact ⟨front, link, hcut, hlink, hfile, by simp⟩
  · rintro ⟨front, link, hcut, hlink, hfile, rfl⟩
    have hback : '\n' ∉ ')' :: (link ++ file) := fun hmem =>
      hline (by rw [hcut.cut]; exact List.mem_append_right front hmem)
    exact ⟨front, _, (link, file), hcut, (linked?_eq_some_iff hback).2 ⟨rfl, hlink, hfile⟩,
      by simp [behindCall]⟩

-- ===================================================== the two readings

namespace FrameForm

variable {f : FrameForm}

/-- The text, part by part. -/
theorem text_eq (f : FrameForm) :
    f.text = f.indent ++ ("at".toList ++ (f.gap ++ f.first :: (f.body
      ++ (":line ".toList ++ (f.number ++ f.closing))))) := by
  have hback : f.back = ":line ".toList ++ (f.number ++ f.closing) := rfl
  rw [text, front, hback]
  simp only [List.append_assoc, List.cons_append]

/-- Behind a mark with digits and white space there is no further one. -/
theorem lastCut_mark {number closing : List Char} (hnumber : ∀ c ∈ number, isDigit c = true)
    (hclosing : ∀ c ∈ closing, isBlank c = true) (front : List Char) :
    LastCut (fun t => ":line ".toList <+: t) (front ++ (":line ".toList ++ (number ++ closing)))
      front (":line ".toList ++ (number ++ closing)) := by
  have hcolon : ':' ∉ "line ".toList ++ (number ++ closing) := by
    intro hmem
    rcases List.mem_append.1 hmem with hmem | hmem
    · revert hmem
      decide
    · rcases List.mem_append.1 hmem with hmem | hmem
      · have hdigit := hnumber _ hmem
        revert hdigit
        decide
      · have hblank := hclosing _ hmem
        revert hblank
        decide
  exact lastCut_of_not_mem hcolon front

/-- A line of the form is read as its parts. -/
theorem ofLine?_text (h : f.WellFormed) (hline : '\n' ∉ f.text) :
    Frame.ofLine? f.text = some f.frame := by
  have hbody : '\n' ∉ f.body := fun hmem => hline (by simp [text, front, hmem])
  have hfile : findFile [f.first] f.body
      = some (f.first :: f.call ++ ')' :: f.link, f.file) :=
    (findFile_eq_some_iff hbody).2
      ⟨f.call, f.link, h.leftmost, h.link, h.file, by simp⟩
  refine Frame.ofLine?_eq_some_iff.2 ⟨f.indent, f.gap, f.first, f.body, _,
    fits_many_one.2 h.indent, fits_oneOrMore_one.2 h.gap, h.first,
    fits_oneOrMore_one.2 h.number, fits_many_one.2 h.closing, ?_, hfile, ?_⟩
  · exact text_eq f
  · simp only [frame, opening, List.append_assoc, List.cons_append]

/-- What is read as a frame is a line of the form. -/
theorem exists_of_ofLine? {line : List Char} {parts : Frame} (hline : '\n' ∉ line)
    (h : Frame.ofLine? line = some parts) :
    ∃ f : FrameForm, f.WellFormed ∧ line = f.text ∧ f.frame = parts := by
  obtain ⟨indent, space, c, body, call, hindent, hspace, hc, hnumber, hclosing, htext, hfile,
    hopening⟩ := Frame.ofLine?_eq_some_iff.1 h
  have hbody : '\n' ∉ body := fun hmem => hline (by rw [htext]; simp [hmem])
  obtain ⟨front, link, hcut, hlink, hvisible, hcall⟩ := (findFile_eq_some_iff hbody).1 hfile
  have hnumber := fits_oneOrMore_one.1 hnumber
  have hclosing := fits_many_one.1 hclosing
  have hshape : body = front ++ ')' :: (link ++ parts.file) := hcut.cut
  rw [hshape] at hcut
  refine ⟨⟨indent, space, c, front, link, parts.file, parts.number, parts.closing⟩,
    ⟨fits_many_one.1 hindent, fits_oneOrMore_one.1 hspace, hc, hlink, hvisible,
      hcut, hnumber, hclosing, lastCut_mark hnumber.2 hclosing _⟩, ?_, ?_⟩
  · rw [htext, hshape, text_eq]
    rfl
  · cases parts with
    | mk opening file number closing =>
        dsimp only at hopening
        simp only [frame, FrameForm.opening, hopening, hcall, List.append_assoc,
          List.cons_append, List.reverse_singleton, List.nil_append]

end FrameForm

-- ============================================================= the law

/-- What the grammar makes of a line that is read as a frame. -/
theorem detect_of_frame {line : String} {parts : Frame}
    (h : Frame.ofLine? line.toList = some parts) :
    Ecosystem.csharp.detect line
      = (position? parts.number).map fun n => .stackFrame (parts.location n) := by
  rw [Ecosystem.detect, Ecosystem.verdict, verdict, h]
  dsimp only
  cases position? parts.number with
  | some n => rfl
  | none => rfl

/-- The law of frames. A line is a stack frame exactly when it has the
form and its number is usable, and then it shows the file between the
first link and the last mark. With another number it is not recognized,
whatever else it looks like. -/
theorem detect_stackFrame (line : String) (hline : '\n' ∉ line.toList) :
    (∀ place, Ecosystem.csharp.detect line = some (.stackFrame place)
        ↔ ∃ (f : FrameForm) (n : UInt32), f.WellFormed ∧ line.toList = f.text
            ∧ IsPosition f.number n ∧ place = f.place n)
      ∧ ∀ f : FrameForm, f.WellFormed → line.toList = f.text →
          (∀ n, ¬ IsPosition f.number n) → Ecosystem.csharp.detect line = none := by
  have hread : ∀ f : FrameForm, f.WellFormed → line.toList = f.text →
      Frame.ofLine? line.toList = some f.frame := by
    intro f hf htext
    rw [htext]
    exact FrameForm.ofLine?_text hf (htext ▸ hline)
  refine ⟨fun place => ⟨fun hdetect => ?_, ?_⟩, fun f hf htext hnone => ?_⟩
  · have hverdict : verdict line.toList = .recognized (.stackFrame place) :=
      Verdict.match?_eq_some_iff.1 hdetect
    rcases of_verdict_location hverdict rfl with
      ⟨parts, n, hparts, hn, hplace⟩ | ⟨d, n, column, -, -, -, hplace⟩
    · injection hplace with hplace
      obtain ⟨f, hf, htext, rfl⟩ := FrameForm.exists_of_ofLine? hline hparts
      exact ⟨f, n, hf, htext, position?_eq_some_iff.1 hn, hplace⟩
    · cases hplace
  · rintro ⟨f, n, hf, htext, hn, rfl⟩
    rw [detect_of_frame (hread f hf htext)]
    have hposition : position? f.frame.number = some n := position?_eq_some_iff.2 hn
    rw [hposition]
    rfl
  · rw [detect_of_frame (hread f hf htext)]
    have hposition : position? f.frame.number = none := position?_eq_none_iff.2 hnone
    rw [hposition]
    rfl

/-- A file that holds both marks, and a frame with line zero that reads like
a diagnostic. -/
theorem detect_stackFrame_marksInFile :
    ('\n' ∉ "  at A.F(é) in (y) in /p q/a) in b:line c.cs:line 012\t".toList
        ∧ ∃ (f : FrameForm) (n : UInt32), f.WellFormed
            ∧ "  at A.F(é) in (y) in /p q/a) in b:line c.cs:line 012\t".toList = f.text
            ∧ IsPosition f.number n
            ∧ f.place n =
                { filePath := "(y) in /p q/a) in b:line c.cs"
                  line := 12
                  column := none
                  projectFile := none
                  symbol := none
                  span := ⟨16, 54⟩ })
      ∧ '\n' ∉ "  at A.F() in x(1,2): error CS1: y:line 0".toList
      ∧ (Diagnostic.ofLine? "  at A.F() in x(1,2): error CS1: y:line 0".toList).isSome = true
      ∧ Ecosystem.csharp.detect "  at A.F() in x(1,2): error CS1: y:line 0" = none := by
  have hline : '\n' ∉ "  at A.F(é) in (y) in /p q/a) in b:line c.cs:line 012\t".toList := by
    decide
  have hline' : '\n' ∉ "  at A.F() in x(1,2): error CS1: y:line 0".toList := by decide
  have hdetect : Ecosystem.csharp.detect
      "  at A.F(é) in (y) in /p q/a) in b:line c.cs:line 012\t"
        = some (.stackFrame ⟨"(y) in /p q/a) in b:line c.cs", 12, none, none, none,
            ⟨16, 54⟩⟩) := by
    decide +kernel
  obtain ⟨f, n, hf, htext, hn, hplace⟩ := ((detect_stackFrame _ hline).1 _).1 hdetect
  have hparts : Frame.ofLine? "  at A.F() in x(1,2): error CS1: y:line 0".toList
      = some ⟨"  at A.F() in ".toList, "x(1,2): error CS1: y".toList, ['0'], []⟩ := by
    decide +kernel
  obtain ⟨g, hg, htext', hframe⟩ := FrameForm.exists_of_ofLine? hline' hparts
  have hzero : ∀ n, ¬ IsPosition g.number n := by
    intro n hn
    have hnumber : g.number = ['0'] := congrArg Frame.number hframe
    rw [hnumber] at hn
    have hpos := hn.pos
    rw [← hn.value] at hpos
    revert hpos
    decide
  exact ⟨⟨hline, f, n, hf, htext, hn, hplace.symm⟩, hline', by decide +kernel,
    (detect_stackFrame _ hline').2 g hg htext' hzero⟩

end ConsoleLinks.CSharp
