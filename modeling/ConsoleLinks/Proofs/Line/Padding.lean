/-
White space around a line: what a grammar reads in a line stays where it
is, and nothing else is read.

# The two ends

Each reader looks for visible characters first and last: the `a` of `at`,
the first character of a file name, the digits of a number, a closing
mark. What stands in front of a visible character in a padded text begins
with the padding, and what stands behind one ends in it
(`exists_of_append_eq_left`, `exists_of_append_eq_right`). So the parts of
a padded line are those of the line, with the padding in the outer ones:
for `at` lines and frames that follows from what their readers find, since
the parts are the only ones. A diagnostic is found by a search, which
sees the same reports (`report?_append_blanks`) up to the padding and none
in it.

# What stays out

Headers, markers and elisions are not the same for a padded line: some
patterns allow white space at an end and some do not. They show no place,
so they say nothing about links; what is carried over is the match of a
line as far as it shows a place (`Ecosystem.place?`).

Consumed by the padding law (`Proofs/Padding.lean`).
-/
import ConsoleLinks.Proofs.Line.CSharp.DiagnosticLaw
import ConsoleLinks.Proofs.Line.Java.AtLine

namespace ConsoleLinks

-- ============================================== texts between white space

namespace Text

variable {pad text front back : List Char} {c : Char}

/-- White space in front of a text stands in front of what is visible. -/
theorem exists_of_append_eq_left (hpad : ∀ a ∈ pad, isBlank a = true)
    (hc : isBlank c = false) (h : pad ++ text = front ++ c :: back) :
    ∃ front', front = pad ++ front' ∧ text = front' ++ c :: back := by
  rcases List.append_eq_append_iff.1 h with ⟨front', hfront, htext⟩ | ⟨rest, hrest, htext⟩
  · exact ⟨front', hfront, htext⟩
  · cases rest with
    | nil =>
        rw [List.append_nil] at hrest
        exact ⟨[], by rw [hrest, List.append_nil], htext.symm⟩
    | cons a rest =>
        injection htext with ha _
        have hmem : c ∈ pad := by
          rw [hrest, ha]
          exact List.mem_append_right _ (List.mem_cons_self ..)
        rw [hpad c hmem] at hc
        cases hc

/-- White space behind a text stands behind what is visible. -/
theorem exists_of_append_eq_right (hpad : ∀ a ∈ pad, isBlank a = true)
    (hc : isBlank c = false) (h : text ++ pad = front ++ c :: back) :
    ∃ back', back = back' ++ pad ∧ text = front ++ c :: back' := by
  have hpad' : ∀ a ∈ pad.reverse, isBlank a = true := fun a ha =>
    hpad a (List.mem_reverse.1 ha)
  have hreverse : pad.reverse ++ text.reverse = back.reverse ++ c :: front.reverse := by
    rw [← List.reverse_append, h, List.reverse_append, List.reverse_cons, List.append_assoc]
    rfl
  obtain ⟨back', hback, htext⟩ := exists_of_append_eq_left hpad' hc hreverse
  refine ⟨back'.reverse, ?_, ?_⟩
  · rw [← List.reverse_reverse back, hback, List.reverse_append, List.reverse_reverse]
  · rw [← List.reverse_reverse text, htext, List.reverse_append, List.reverse_cons,
      List.reverse_reverse, List.append_assoc]
    rfl

/-- A search that reads the same with white space behind the text comes to
the same with it. -/
theorem Scans.append_blanks {β γ : Type} {read? : List Char → Option β}
    {finish : List Char → β → γ} {loop : (passed text : List Char) → Option γ}
    (h : Scans read? finish loop) (hnil : read? [] = none)
    (hread : ∀ pad text, (∀ a ∈ pad, isBlank a = true) → read? (text ++ pad) = read? text)
    (hpad : ∀ a ∈ pad, isBlank a = true) (passed : List Char) :
    loop passed (text ++ pad) = loop passed text := by
  induction text generalizing passed with
  | nil =>
      rw [List.nil_append, h.nil]
      induction pad generalizing passed with
      | nil => exact h.nil passed
      | cons a pad ih =>
          have hnone : read? (a :: pad) = none := (hread (a :: pad) [] hpad).trans hnil
          rw [h.cons, hnone, Option.elim_none,
            ih fun b hb => hpad b (List.mem_cons_of_mem a hb)]
          exact ite_self none
  | cons a text ih =>
      have hsame : read? (a :: (text ++ pad)) = read? (a :: text) :=
        hread pad (a :: text) hpad
      rw [List.cons_append, h.cons, hsame, ih, ← h.cons]

end Text

open Text

-- =============================================================== at lines

namespace Java

variable {w₁ w₂ : List Char}

/-- White space behind the closing parenthesis does not matter. -/
theorem isPackaging_append_blanks (h₂ : ∀ c ∈ w₂, isBlank c = true) (text : List Char) :
    isPackaging (text ++ w₂) = isPackaging text := by
  rw [Bool.eq_iff_iff, isPackaging_iff, isPackaging_iff]
  constructor
  · rintro (hblank | ⟨space, tilde, inside, closing, htext, hne, hspace, htilde, hinside,
      hclosing⟩)
    · exact .inl fun c hc => hblank c (List.mem_append_left _ hc)
    · have hcut : text ++ w₂ = (space ++ (tilde ++ '[' :: inside)) ++ ']' :: closing := by
        rw [htext]
        simp
      obtain ⟨closing', rfl, rfl⟩ := exists_of_append_eq_right h₂ (by decide) hcut
      exact .inr ⟨space, tilde, inside, closing', by simp, hne, hspace, htilde, hinside,
        fun c hc => hclosing c (List.mem_append_left _ hc)⟩
  · rintro (hblank | ⟨space, tilde, inside, closing, rfl, hne, hspace, htilde, hinside,
      hclosing⟩)
    · exact .inl fun c hc => (List.mem_append.1 hc).elim (hblank c) (h₂ c)
    · exact .inr ⟨space, tilde, inside, closing ++ w₂, by simp, hne, hspace, htilde, hinside,
        fun c hc => (List.mem_append.1 hc).elim (hclosing c) (h₂ c)⟩

/-- The parts of an `at` line with white space around it. -/
def AtLine.pad (w₁ w₂ : List Char) (l : AtLine) : AtLine :=
  { l with opening := w₁ ++ l.opening, packaging := l.packaging ++ w₂ }

theorem AtLine.text_pad (l : AtLine) : (l.pad w₁ w₂).text = w₁ ++ (l.text ++ w₂) := by
  simp [pad, text]

/-- Padded parts are well formed just when the parts are. -/
theorem AtLine.wellFormed_pad (h₁ : ∀ c ∈ w₁, isBlank c = true)
    (h₂ : ∀ c ∈ w₂, isBlank c = true) {l : AtLine} (h : l.WellFormed) :
    (l.pad w₁ w₂).WellFormed where
  opening := by
    obtain ⟨indent, gap, owner, hopening, hindent, hgap⟩ := h.opening
    exact ⟨w₁ ++ indent, gap, owner, by simp [pad, hopening],
      fun c hc => (List.mem_append.1 hc).elim (h₁ c) (hindent c), hgap⟩
  symbol := h.symbol
  source := h.source
  packaging := (isPackaging_append_blanks h₂ l.packaging).trans h.packaging

/-- The parts of a padded line are padded parts. -/
theorem AtLine.exists_of_padded (h₁ : ∀ c ∈ w₁, isBlank c = true)
    (h₂ : ∀ c ∈ w₂, isBlank c = true) {line : List Char} {l : AtLine}
    (htext : l.text = w₁ ++ (line ++ w₂)) (h : l.WellFormed) :
    ∃ l' : AtLine, l'.text = line ∧ l'.WellFormed := by
  obtain ⟨opening, symbol, source, packaging⟩ := l
  obtain ⟨⟨indent, gap, owner, hopening, hindent, hgap⟩, hsymbol, hsource, hpackaging⟩ := h
  dsimp only at hopening hsymbol hsource hpackaging
  subst hopening
  have hfront : w₁ ++ (line ++ w₂) = indent ++ 'a' :: ('t' :: (gap ++ owner ++ symbol
      ++ ['('] ++ source) ++ ')' :: packaging) := by
    rw [← htext]
    simp [AtLine.text]
  obtain ⟨indent', rfl, hline⟩ := exists_of_append_eq_left h₁ (by decide) hfront
  have hend : line ++ w₂ = (indent' ++ 'a' :: 't' :: (gap ++ owner ++ symbol
      ++ ['('] ++ source)) ++ ')' :: packaging := by
    rw [hline]
    simp
  obtain ⟨packaging', rfl, hline'⟩ := exists_of_append_eq_right h₂ (by decide) hend
  refine ⟨⟨indent' ++ "at".toList ++ gap ++ owner, symbol, source, packaging'⟩, ?_, ?_⟩
  · rw [hline']
    simp [AtLine.text]
  · exact ⟨⟨indent', gap, owner, rfl,
      fun c hc => hindent c (List.mem_append_right _ hc), hgap⟩, hsymbol, hsource,
      (isPackaging_append_blanks h₂ packaging').symm.trans hpackaging⟩

/-- An `at` line is one with white space around it, and no other line
becomes one. -/
theorem AtLine.ofLine?_padded (h₁ : ∀ c ∈ w₁, isBlank c = true)
    (h₂ : ∀ c ∈ w₂, isBlank c = true) (line : List Char) :
    AtLine.ofLine? (w₁ ++ (line ++ w₂)) = (AtLine.ofLine? line).map (pad w₁ w₂) := by
  cases hline : AtLine.ofLine? line with
  | some l =>
      obtain ⟨rfl, hform⟩ := AtLine.ofLine?_eq_some_iff.1 hline
      exact AtLine.ofLine?_eq_some_iff.2 ⟨l.text_pad, wellFormed_pad h₁ h₂ hform⟩
  | none =>
      cases hpadded : AtLine.ofLine? (w₁ ++ (line ++ w₂)) with
      | none => rfl
      | some l =>
          obtain ⟨htext, hform⟩ := AtLine.ofLine?_eq_some_iff.1 hpadded
          obtain ⟨l', hline', hform'⟩ := exists_of_padded h₁ h₂ htext hform
          rw [AtLine.ofLine?_eq_some_iff.2 ⟨hline', hform'⟩] at hline
          cases hline

end Java

-- ================================================================= frames

namespace CSharp

variable {w₁ w₂ : List Char}

/-- The parts of a frame with white space around it. -/
def Frame.pad (w₁ w₂ : List Char) (f : Frame) : Frame :=
  { f with opening := w₁ ++ f.opening, closing := f.closing ++ w₂ }

/-- A frame is one with white space around it, and no other line becomes
one. -/
theorem Frame.ofLine?_padded (h₁ : ∀ c ∈ w₁, isBlank c = true)
    (h₂ : ∀ c ∈ w₂, isBlank c = true) (line : List Char) :
    Frame.ofLine? (w₁ ++ (line ++ w₂)) = (Frame.ofLine? line).map (pad w₁ w₂) := by
  cases hline : Frame.ofLine? line with
  | some f =>
      obtain ⟨indent, space, c, body, call, hindent, hspace, hc, hnumber, hclosing, rfl,
        hfile, hopening⟩ := Frame.ofLine?_eq_some_iff.1 hline
      refine Frame.ofLine?_eq_some_iff.2 ⟨w₁ ++ indent, space, c, body, call, ?_, hspace, hc,
        hnumber, ?_, ?_, hfile, ?_⟩
      · exact Pattern.fits_many_one.2 fun a ha =>
          (List.mem_append.1 ha).elim (h₁ a) (Pattern.fits_many_one.1 hindent a)
      · exact Pattern.fits_many_one.2 fun a ha =>
          (List.mem_append.1 ha).elim (Pattern.fits_many_one.1 hclosing a) (h₂ a)
      · simp [pad]
      · simp [pad, hopening]
  | none =>
      cases hpadded : Frame.ofLine? (w₁ ++ (line ++ w₂)) with
      | none => rfl
      | some f =>
          obtain ⟨indent, space, c, body, call, hindent, hspace, hc, hnumber, hclosing,
            htext, hfile, -⟩ := Frame.ofLine?_eq_some_iff.1 hpadded
          have hfront : w₁ ++ (line ++ w₂) = indent ++ 'a' :: 't' :: (space ++ c :: (body
              ++ (":line ".toList ++ (f.number ++ f.closing)))) := htext
          obtain ⟨indent', rfl, hrest⟩ := exists_of_append_eq_left h₁ (by decide) hfront
          -- the last digit is visible
          obtain ⟨hne, hdigits⟩ := Pattern.fits_oneOrMore_one.1 hnumber
          obtain ⟨number, last, hlast⟩ := (List.eq_nil_or_concat f.number).resolve_left hne
          rw [List.concat_eq_append] at hlast
          have hvisible : isBlank last = false :=
            isBlank_of_isDigit (hdigits last (by simp [hlast]))
          have hend : line ++ w₂ = (indent' ++ "at".toList ++ space ++ c :: (body
              ++ (":line ".toList ++ number))) ++ last :: f.closing := by
            rw [hrest, hlast]
            simp
          obtain ⟨closing', hclosing', hline'⟩ := exists_of_append_eq_right h₂ hvisible hend
          have hfound : Frame.ofLine? line
              = some ⟨indent' ++ "at".toList ++ space ++ call, f.file, f.number,
                  closing'⟩ := by
            refine Frame.ofLine?_eq_some_iff.2 ⟨indent', space, c, body, call, ?_, hspace,
              hc, hnumber, ?_, ?_, hfile, rfl⟩
            · exact Pattern.fits_many_one.2 fun a ha =>
                Pattern.fits_many_one.1 hindent a (List.mem_append_right _ ha)
            · refine Pattern.fits_many_one.2 fun a ha =>
                Pattern.fits_many_one.1 hclosing a ?_
              rw [hclosing']
              exact List.mem_append_left _ ha
            · rw [hline', hlast]
              simp
          rw [hfound] at hline
          cases hline

-- ============================================================ diagnostics

/-- A message names the same project with white space behind it. -/
theorem project?_append_blanks (h₂ : ∀ c ∈ w₂, isBlank c = true) (message : List Char) :
    project? (message ++ w₂) = project? message := by
  have hreverse : ∀ c ∈ w₂.reverse, isBlank c = true := fun c hc =>
    h₂ c (List.mem_reverse.1 hc)
  unfold project? projectAtEnd?
  rw [dropBlanksEnd_append_blanks h₂, List.reverse_append,
    List.dropWhile_append_of_pos hreverse]

/-- A report is the same with white space behind it, and there is none in
white space. -/
theorem report?_append_blanks (h₂ : ∀ c ∈ w₂, isBlank c = true) (text : List Char) :
    report? (text ++ w₂) = report? text := by
  refine Option.ext fun ⟨line, column, range, project⟩ => ?_
  rw [report?_eq_some_iff_text, report?_eq_some_iff_text]
  constructor
  · rintro ⟨code, message, hform, htext, hproject⟩
    -- a code ends in a colon
    obtain ⟨code, _, rfl, hcode, rfl⟩ := hform.code
    have hend : text ++ w₂ = (Report.place ⟨line, column, range, code, message⟩ ++ code)
        ++ ':' :: message := by
      rw [htext]
      simp [Report.text, Report.place]
    obtain ⟨message', rfl, rfl⟩ := exists_of_append_eq_right h₂ (by decide) hend
    rw [project?_append_blanks h₂] at hproject
    exact ⟨code ++ ":".toList, message',
      ⟨hform.lineNumber, hform.columnNumber, hform.range, hform.code⟩,
      by simp [Report.text, Report.place], hproject⟩
  · rintro ⟨code, message, hform, rfl, hproject⟩
    exact ⟨code, message ++ w₂,
      ⟨hform.lineNumber, hform.columnNumber, hform.range, hform.code⟩,
      by simp [Report.text, Report.place], (project?_append_blanks h₂ message).trans hproject⟩

/-- A diagnostic with white space in front of it. -/
def Diagnostic.pad (w₁ : List Char) (d : Diagnostic) : Diagnostic :=
  { d with indent := w₁ ++ d.indent }

/-- What the search for a place finds does not depend on the
indentation. -/
theorem findPlace_append (indent file text : List Char) :
    findPlace (w₁ ++ indent) file text = (findPlace indent file text).map (.pad w₁) := by
  induction text generalizing file with
  | nil => rfl
  | cons c text ih =>
      rw [(scans_findPlace (w₁ ++ indent)).cons, (scans_findPlace indent).cons, ih]
      cases report? (c :: text) with
      | some found => rfl
      | none =>
          simp only [Option.elim_none]
          split <;> rfl

/-- A diagnostic is one with white space around it, and no other line
becomes one. -/
theorem Diagnostic.ofLine?_padded (h₁ : ∀ c ∈ w₁, isBlank c = true)
    (h₂ : ∀ c ∈ w₂, isBlank c = true) (line : List Char) :
    Diagnostic.ofLine? (w₁ ++ (line ++ w₂)) = (Diagnostic.ofLine? line).map (pad w₁) := by
  unfold Diagnostic.ofLine?
  rw [List.dropWhile_append_of_pos h₁, List.takeWhile_append_of_pos h₁]
  cases hvisible : line.dropWhile isBlank with
  | nil =>
      have hblank : ∀ c ∈ line ++ w₂, isBlank c = true := fun c hc =>
        (List.mem_append.1 hc).elim (List.dropWhile_eq_nil_iff.1 hvisible c) (h₂ c)
      rw [List.dropWhile_eq_nil_iff.2 hblank]
      rfl
  | cons c rest =>
      have hc := head_of_dropWhile_eq_cons hvisible
      have hindent : ∀ a ∈ line.takeWhile isBlank, isBlank a = true :=
        List.all_eq_true.1 List.all_takeWhile
      have hline : line ++ w₂ = line.takeWhile isBlank ++ c :: (rest ++ w₂) := by
        conv => lhs; rw [eq_takeWhile_append_of_dropWhile hvisible]
        simp
      rw [hline, dropWhile_append_of_boundary hindent (boundary_cons hc _),
        takeWhile_append_of_boundary hindent (boundary_cons hc _)]
      have hscan : findPlace (line.takeWhile isBlank) [c] (rest ++ w₂)
          = findPlace (line.takeWhile isBlank) [c] rest :=
        (scans_findPlace _).append_blanks rfl (fun _ text h => report?_append_blanks h text)
          h₂ [c]
      show findPlace (w₁ ++ line.takeWhile isBlank) [c] (rest ++ w₂) = _
      rw [findPlace_append, hscan]

end CSharp

-- ================================================================= places

/-- A span further behind. -/
def Span.shift (n : Nat) (s : Span) : Span := ⟨n + s.start, n + s.stop⟩

/-- A match further behind in a line. -/
def LineMatch.shift (n : Nat) : LineMatch → LineMatch
  | stackFrame place => .stackFrame { place with span := place.span.shift n }
  | compilerDiagnostic place => .compilerDiagnostic { place with span := place.span.shift n }
  | m => m

/-- A stretch of a text with something in front of it. -/
theorem Span.after_append (front before visible : List Char) :
    Span.after (front ++ before) visible
      = (Span.after before visible).shift (byteLength front) := by
  unfold Span.after shift
  rw [byteLength_append, Nat.add_assoc]

namespace Ecosystem

/-- What a line is, when it shows a place. -/
def place? (e : Ecosystem) (line : String) : Option LineMatch :=
  (e.detect line).filter (·.location?.isSome)

/-- For one ecosystem that is what its `at` lines show. -/
theorem place?_java (line : String) :
    java.place? line = (Java.AtLine.ofLine? line.toList).bind fun l =>
      match Java.Source.ofText? l.source with
      | some (.position file number) =>
        (position? number).map fun n => .stackFrame (l.location file number n)
      | _ => none := by
  unfold place? detect verdict Java.verdict
  dsimp only
  cases Java.AtLine.ofLine? line.toList with
  | none =>
      dsimp only
      split
      next => rfl
      next => split <;> rfl
  | some l =>
      dsimp only [Option.bind_some]
      cases Java.Source.ofText? l.source with
      | none => rfl
      | some source =>
          cases source with
          | noPosition => rfl
          | position file number =>
              dsimp only
              cases position? number <;> rfl

/-- For the other it is what its frames show, and where there is none its
diagnostics. -/
theorem place?_csharp (line : String) :
    csharp.place? line = match CSharp.Frame.ofLine? line.toList with
      | some f => (position? f.number).map fun n => .stackFrame (f.location n)
      | none => (CSharp.Diagnostic.ofLine? line.toList).bind fun d =>
        (position? d.lineNumber).bind fun n =>
          (position? d.columnNumber).map fun column =>
            .compilerDiagnostic (d.location n column) := by
  unfold place? detect verdict CSharp.verdict
  dsimp only
  cases CSharp.Frame.ofLine? line.toList with
  | some f =>
      dsimp only
      cases position? f.number <;> rfl
  | none =>
      dsimp only
      cases CSharp.Diagnostic.ofLine? line.toList with
      | some d =>
          dsimp only [Option.bind_some]
          cases position? d.lineNumber with
          | none => rfl
          | some n => cases position? d.columnNumber <;> rfl
      | none =>
          dsimp only
          split
          next => rfl
          next => split <;> rfl

/-- White space around a line creates no place and takes none away; it
only moves the place. -/
theorem place?_padded (e : Ecosystem) {w₁ w₂ : String}
    (h₁ : ∀ c ∈ w₁.toList, isBlank c = true) (h₂ : ∀ c ∈ w₂.toList, isBlank c = true)
    (line : String) :
    e.place? (w₁ ++ line ++ w₂)
      = (e.place? line).map (.shift (byteLength w₁.toList)) := by
  have htext : (w₁ ++ line ++ w₂).toList = w₁.toList ++ (line.toList ++ w₂.toList) := by
    simp
  cases e with
  | java =>
      rw [place?_java, place?_java, htext, Java.AtLine.ofLine?_padded h₁ h₂]
      cases Java.AtLine.ofLine? line.toList with
      | none => rfl
      | some l =>
          have hspan : ∀ file number n, (l.pad w₁.toList w₂.toList).location file number n
              = { l.location file number n with
                  span := (l.location file number n).span.shift (byteLength w₁.toList) } := by
            intro file number n
            simp only [Java.AtLine.location, Java.AtLine.pad, ← Span.after_append,
              List.append_assoc]
          simp only [Option.map_some, Option.bind_some]
          show (match Java.Source.ofText? l.source with
            | some (.position file number) => _
            | _ => _) = _
          cases Java.Source.ofText? l.source with
          | none => rfl
          | some source =>
              cases source with
              | noPosition => rfl
              | position file number =>
                  simp only [Option.map_map]
                  refine congrArg (Option.map · (position? number)) (funext fun n => ?_)
                  exact congrArg LineMatch.stackFrame (hspan file number n)
  | csharp =>
      rw [place?_csharp, place?_csharp, htext, CSharp.Frame.ofLine?_padded h₁ h₂,
        CSharp.Diagnostic.ofLine?_padded h₁ h₂]
      cases CSharp.Frame.ofLine? line.toList with
      | some f =>
          have hspan : ∀ n, (f.pad w₁.toList w₂.toList).location n
              = { f.location n with
                  span := (f.location n).span.shift (byteLength w₁.toList) } := by
            intro n
            simp only [CSharp.Frame.location, CSharp.Frame.pad, ← Span.after_append]
          simp only [Option.map_some, Option.map_map]
          refine congrArg (Option.map · (position? f.number)) (funext fun n => ?_)
          exact congrArg LineMatch.stackFrame (hspan n)
      | none =>
          simp only [Option.map_none]
          cases CSharp.Diagnostic.ofLine? line.toList with
          | none => rfl
          | some d =>
              have hspan : ∀ n column, (d.pad w₁.toList).location n column
                  = { d.location n column with
                      span := (d.location n column).span.shift (byteLength w₁.toList) } := by
                intro n column
                simp only [CSharp.Diagnostic.location, CSharp.Diagnostic.pad,
                  ← Span.after_append]
                rfl
              simp only [Option.map_some, Option.bind_some]
              show (position? d.lineNumber).bind _ = _
              cases position? d.lineNumber with
              | none => rfl
              | some n =>
                  simp only [Option.bind_some, Option.map_map]
                  refine congrArg (Option.map · (position? d.columnNumber))
                    (funext fun column => ?_)
                  exact congrArg LineMatch.compilerDiagnostic (hspan n column)

end Ecosystem

end ConsoleLinks
