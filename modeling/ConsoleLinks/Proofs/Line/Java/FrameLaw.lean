/-
The law of frames: which `at` lines of a Java trace are recognized, and
as what.

# The form

A frame is white space, `at`, more white space, perhaps a module part,
names with dots behind them and a method, a source in parentheses, and
perhaps a packaging (`Frame`, `Frame.WellFormed`). The source is a file
and a usable line number, or one of the sources that show no line
(`Site`).

# The law

An `at` line is recognized exactly when it has this form. The parts are
its only ones, and they are what the answer is made of
(`detect_atLine`). So the module part never reaches into the symbol, and
a number that is no line makes the whole line unrecognized.

# The proof

The parts of a frame are those of an `at` line, with the symbol and the
source taken apart further (`Frame.atLine`). `AtLine.lean` has found them
already; here the two finer cuts are added. An `at` line that is no frame
is neither a header nor a count of frames left out, since both open with
something else (`Ambiguity.lean`).
-/
import ConsoleLinks.Proofs.Line.Ambiguity
import ConsoleLinks.Proofs.Text.Position

namespace ConsoleLinks.Java

open Text

-- ============================================================ the form

/-- A line that opens with `at` between white space. -/
def OpensAt (line : List Char) : Prop :=
  ∃ indent c rest, line = indent ++ ("at".toList ++ c :: rest)
    ∧ (∀ d ∈ indent, isBlank d = true) ∧ isBlank c = true

/-- The name of a source file: none of the marks of a place in it, and
something in front of its ending. -/
def IsFileName (name : List Char) : Prop :=
  (∀ c ∈ name, c ∉ ['(', ')', '/', '\\', ':'])
    ∧ ∃ stem, stem ≠ [] ∧ name = stem ++ ".java".toList

/-- What may follow the closing parenthesis: white space, and in front of
it the name of an archive in brackets, set off by white space. -/
def IsArchive (text : List Char) : Prop :=
  (∀ c ∈ text, isBlank c = true)
    ∨ ∃ space tilde inside closing,
        text = space ++ (tilde ++ '[' :: (inside ++ ']' :: closing))
          ∧ space ≠ [] ∧ (∀ c ∈ space, isBlank c = true)
          ∧ (tilde = ['~'] ∨ tilde = []) ∧ ']' ∉ inside
          ∧ ∀ c ∈ closing, isBlank c = true

/-- What stands between the parentheses of a frame. -/
inductive Site where
  /-- A source that shows no line. -/
  | unplaced (source : List Char)
  /-- A file, and the number that shows line `n` of it. -/
  | placed (file number : List Char) (n : UInt32)

namespace Site

def text : Site → List Char
  | unplaced source => source
  | placed file number _ => file ++ ':' :: number

def WellFormed : Site → Prop
  | unplaced source =>
    source = "Native Method".toList ∨ source = "Unknown Source".toList
      ∨ IsFileName source
  | placed file number n => IsFileName file ∧ IsPosition number n

/-- What is read from between the parentheses. -/
def source : Site → Source
  | unplaced _ => .noPosition
  | placed file number _ => .position file number

end Site

/-- The parts of a frame. -/
structure Frame where
  indent : List Char
  /-- The white space behind `at`. -/
  gap : List Char
  /-- The module or the class loader, its last slash included. -/
  owner : List Char
  /-- The names in front of the method. -/
  names : List (List Char)
  method : List Char
  site : Site
  packaging : List Char

namespace Frame

/-- The qualified name of the method. -/
def symbol (f : Frame) : List Char := ended '.' f.names ++ f.method

/-- All in front of the symbol. -/
def opening (f : Frame) : List Char := f.indent ++ "at".toList ++ f.gap ++ f.owner

/-- The line the parts stand for. -/
def text (f : Frame) : List Char :=
  f.opening ++ f.symbol ++ ['('] ++ f.site.text ++ [')'] ++ f.packaging

/-- What each part has to be. -/
structure WellFormed (f : Frame) : Prop where
  indent : ∀ c ∈ f.indent, isBlank c = true
  gap : f.gap ≠ [] ∧ ∀ c ∈ f.gap, isBlank c = true
  owner : IsModulePart f.owner
  names : f.names ≠ [] ∧ ∀ name ∈ f.names, isName name = true
  method : isMethod f.method = true
  site : f.site.WellFormed
  packaging : IsArchive f.packaging

/-- What a frame is recognized as: a stack frame where it shows a line, a
part of the trace where it does not. -/
def found (f : Frame) : LineMatch :=
  match f.site with
  | .unplaced _ => .continuation
  | .placed file number n =>
    .stackFrame
      { filePath := String.ofList file
        line := n
        column := none
        projectFile := none
        symbol := some (String.ofList f.symbol)
        span := .after (f.opening ++ f.symbol ++ ['(']) (file ++ ':' :: number) }

/-- The parts as an `at` line has them. -/
def atLine (f : Frame) : AtLine := ⟨f.opening, f.symbol, f.site.text, f.packaging⟩

end Frame

-- ============================================================= sources

/-- The test for a file name. -/
theorem isFile_iff {name : List Char} : isFile name = true ↔ IsFileName name := by
  have hmarks : name.all (fun c => c ≠ '(' && c ≠ ')' && c ≠ '/' && c ≠ '\\' && c ≠ ':')
      = true ↔ ∀ c ∈ name, c ∉ ['(', ')', '/', '\\', ':'] := by
    simp [and_assoc]
  unfold isFile
  rw [Bool.and_eq_true, hmarks]
  refine and_congr_right fun _ => ?_
  constructor
  · intro h
    split at h
    next stem hword =>
      exact ⟨stem, by simpa using h, beforeWord?_eq_some_iff.1 hword⟩
    next => cases h
  · rintro ⟨stem, hne, rfl⟩
    rw [beforeWord?_eq_some_iff.2 rfl]
    simpa using hne

namespace Site

/-- A usable number is made of digits. -/
theorem digits_of_isPosition {number : List Char} {n : UInt32} (h : IsPosition number n) :
    number ≠ [] ∧ ∀ c ∈ number, isDigit c = true :=
  ⟨h.ne_nil, fun c hc => isDigit_of_ascii (h.digits c hc)⟩

/-- The source of a frame is read from between its parentheses. -/
theorem ofText?_text {s : Site} (h : s.WellFormed) :
    Source.ofText? s.text = some s.source := by
  cases s with
  | unplaced source =>
      refine Source.ofText?_eq_noPosition_iff.2 ?_
      rw [isFile_iff]
      exact h
  | placed file number n =>
      obtain ⟨hfile, hnumber⟩ := h
      exact Source.ofText?_eq_position_iff.2
        ⟨rfl, isFile_iff.2 hfile, digits_of_isPosition hnumber⟩

/-- The text between the parentheses is a source of one kind only. -/
theorem text_injective {s t : Site} (hs : s.WellFormed) (ht : t.WellFormed)
    (h : s.text = t.text) : s = t := by
  have hsource : s.source = t.source := by
    have hread := ofText?_text hs
    rw [h, ofText?_text ht] at hread
    exact (Option.some.inj hread).symm
  cases s with
  | unplaced source =>
      cases t with
      | unplaced source' => exact congrArg unplaced h
      | placed file number n => cases hsource
  | placed file number n =>
      cases t with
      | unplaced source => cases hsource
      | placed file' number' n' =>
          injection hsource with hfile hnumber
          subst hfile hnumber
          have hn := position?_eq_some_iff.2 hs.2
          rw [position?_eq_some_iff.2 ht.2] at hn
          rw [Option.some.inj hn]

end Site

namespace Frame

variable {f g : Frame}

-- ======================================================== as at lines

theorem text_atLine : f.atLine.text = f.text := rfl

theorem isSymbol_symbol (h : f.WellFormed) : isSymbol f.symbol = true :=
  isSymbol_iff.2 ⟨f.names, f.method, rfl, h.names.1, h.names.2, h.method⟩

/-- A frame is an `at` line. -/
theorem wellFormed_atLine (h : f.WellFormed) : f.atLine.WellFormed where
  opening := ⟨f.indent, f.gap, f.owner, rfl, h.indent, h.gap.1, h.gap.2, h.owner⟩
  symbol := isSymbol_symbol h
  source := not_mem_of_ofText? (Site.ofText?_text h.site)
  packaging := isPackaging_iff.2 h.packaging

/-- A frame is read as the `at` line that its parts make up. -/
theorem ofLine?_text (h : f.WellFormed) : AtLine.ofLine? f.text = some f.atLine :=
  AtLine.ofLine?_eq_some_iff.2 ⟨text_atLine, wellFormed_atLine h⟩

/-- What the grammar makes of a frame. -/
theorem verdict_text (h : f.WellFormed) : verdict f.text = .recognized f.found := by
  have hline := ofLine?_text h
  have hsource : Source.ofText? f.atLine.source = some f.site.source :=
    Site.ofText?_text h.site
  have hsite := h.site
  unfold verdict found
  rw [hline]
  dsimp only
  rw [hsource]
  cases hf : f.site with
  | unplaced source => rfl
  | placed file number n =>
      rw [hf] at hsite
      have hn : position? number = some n := position?_eq_some_iff.2 hsite.2
      simp only [Site.source, hn]
      simp [AtLine.location, atLine]

/-- An `at` line with a source that is recognized is a frame. -/
theorem exists_of_ofLine? {line : List Char} {l : AtLine} {s : Site}
    (hl : AtLine.ofLine? line = some l) (hs : s.WellFormed) (hsource : s.text = l.source) :
    ∃ f : Frame, f.WellFormed ∧ line = f.text := by
  obtain ⟨htext, hform⟩ := AtLine.ofLine?_eq_some_iff.1 hl
  obtain ⟨indent, gap, owner, hopening, hindent, hne, hgap, howner⟩ := hform.opening
  obtain ⟨names, method, hsymbol, hnames, hall, hmethod⟩ := isSymbol_iff.1 hform.symbol
  refine ⟨⟨indent, gap, owner, names, method, s, l.packaging⟩,
    ⟨hindent, ⟨hne, hgap⟩, howner, ⟨hnames, hall⟩, hmethod, hs,
      isPackaging_iff.1 hform.packaging⟩, ?_⟩
  rw [← htext, AtLine.text, hopening, hsymbol, ← hsource]
  rfl

-- ============================================================ its parts

/-- The module part does not begin with white space. -/
theorem boundary_owner {owner : List Char} (h : IsModulePart owner) :
    ∀ c ∈ owner.head?, isBlank c = false := by
  intro c hc
  have hmodule := h.1 c (List.mem_of_mem_head? hc)
  by_contra hblank
  rw [inModule_of_isBlank (by simpa using hblank)] at hmodule
  cases hmodule

/-- What stands in front of the symbol is cut in one way only. -/
theorem opening_injective (hf : f.WellFormed) (hg : g.WellFormed)
    (h : f.opening = g.opening) :
    f.indent = g.indent ∧ f.gap = g.gap ∧ f.owner = g.owner := by
  have hcut (f : Frame) :
      f.opening = f.indent ++ ("at".toList ++ (f.gap ++ f.owner)) := by
    simp [opening]
  have hword (rest : List Char) : ∀ c ∈ ("at".toList ++ rest).head?, isBlank c = false :=
    boundary_cons (by decide) _
  rw [hcut f, hcut g] at h
  obtain ⟨hindent, hrest⟩ := append_inj_of_boundary hf.indent (hword _) hg.indent (hword _) h
  have hbehind := List.append_cancel_left hrest
  obtain ⟨hgap, howner⟩ := append_inj_of_boundary hf.gap.2 (boundary_owner hf.owner)
    hg.gap.2 (boundary_owner hg.owner) hbehind
  exact ⟨hindent, hgap, howner⟩

/-- A symbol is cut in one way only. -/
theorem symbol_injective (hf : f.WellFormed) (hg : g.WellFormed)
    (h : f.symbol = g.symbol) : f.names = g.names ∧ f.method = g.method := by
  have hpieces := congrArg (pieces '.') h
  unfold symbol at hpieces
  rw [pieces_names_method hf.names.2 hf.method,
    pieces_names_method hg.names.2 hg.method] at hpieces
  obtain ⟨hnames, hmethod⟩ := List.append_inj' hpieces rfl
  exact ⟨hnames, List.singleton_inj.1 hmethod⟩

/-- The parts of a frame are its only ones. -/
theorem text_injective (hf : f.WellFormed) (hg : g.WellFormed)
    (h : f.text = g.text) : f = g := by
  have hline : f.atLine = g.atLine := by
    have hread := ofLine?_text hf
    rw [h, ofLine?_text hg] at hread
    exact (Option.some.inj hread).symm
  injection hline with hopening hsymbol hsource hpackaging
  obtain ⟨hindent, hgap, howner⟩ := opening_injective hf hg hopening
  obtain ⟨hnames, hmethod⟩ := symbol_injective hf hg hsymbol
  have hsite := Site.text_injective hf.site hg.site hsource
  cases f with
  | mk indent gap owner names method site packaging =>
      cases g with
      | mk indent' gap' owner' names' method' site' packaging' =>
          dsimp only at hindent hgap howner hnames hmethod hsite hpackaging
          subst hindent hgap howner hnames hmethod hsite
          rw [show packaging = packaging' from hpackaging]

end Frame

-- ============================================================= the law

/-- A line that opens with `at` is neither a count of frames left out nor
a header. -/
theorem not_accepted_of_opensAt {line : List Char} (h : OpensAt line) :
    isElision line = false ∧ isHeader line = false := by
  obtain ⟨indent, c, rest, rfl, hindent, hc⟩ := h
  have hopening : Shape.opening (indent ++ ("at".toList ++ c :: rest))
      = ("at".toList, c :: rest) := Shape.opening_at hindent hc
  refine ⟨Bool.eq_false_iff.2 fun helision => ?_, Bool.eq_false_iff.2 fun hheader => ?_⟩
  · obtain ⟨behind, hdots⟩ := Shape.opening_of_isElision helision
    rw [hopening] at hdots
    cases hdots
  · obtain ⟨word, d, behind, hname, -, hmark⟩ := Shape.opening_of_isHeader hheader
    rw [hopening] at hname
    injection hname with hword hd
    injection hd with hd _
    subst hword hd
    rcases hmark with rfl | hmem
    · revert hc
      decide
    · revert hmem
      decide

/-- An `at` line that is recognized is a frame. -/
theorem exists_frame_of_verdict {line : List Char} {m : LineMatch} (h : OpensAt line)
    (hverdict : verdict line = .recognized m) :
    ∃ f : Frame, f.WellFormed ∧ line = f.text := by
  obtain ⟨helision, hheader⟩ := not_accepted_of_opensAt h
  rcases of_verdict hverdict with
    ⟨l, file, number, n, hl, hsource, hn, -⟩ | ⟨-, ⟨l, hl, hsource⟩ | ⟨-, hother⟩⟩
      | ⟨-, -, -, hother⟩
  · obtain ⟨htext, hfile, -, -⟩ := Source.ofText?_eq_position_iff.1 hsource
    exact Frame.exists_of_ofLine? hl (s := .placed file number n)
      ⟨isFile_iff.1 hfile, position?_eq_some_iff.1 hn⟩ htext.symm
  · have hunplaced := Source.ofText?_eq_noPosition_iff.1 hsource
    rw [isFile_iff] at hunplaced
    exact Frame.exists_of_ofLine? hl (s := .unplaced l.source) hunplaced rfl
  · rw [helision] at hother
    cases hother
  · rw [hheader] at hother
    cases hother

/-- The law of frames. An `at` line is recognized exactly when it has the
form of a frame; then its parts are its only ones, and the answer is made
of them. -/
theorem detect_atLine (line : String) (h : OpensAt line.toList) :
    ((Ecosystem.java.detect line).isSome = true
        ↔ ∃ f : Frame, f.WellFormed ∧ line.toList = f.text)
      ∧ (∀ f : Frame, f.WellFormed → line.toList = f.text →
          Ecosystem.java.detect line = some f.found)
      ∧ ∀ f g : Frame, f.WellFormed → g.WellFormed →
          line.toList = f.text → line.toList = g.text → f = g := by
  have hfound : ∀ f : Frame, f.WellFormed → line.toList = f.text →
      Ecosystem.java.detect line = some f.found := by
    intro f hf htext
    rw [Ecosystem.detect, Ecosystem.verdict, htext, Frame.verdict_text hf]
    rfl
  refine ⟨⟨fun hsome => ?_, ?_⟩, hfound, fun f g hf hg htext htext' => ?_⟩
  · obtain ⟨m, hm⟩ := Option.isSome_iff_exists.1 hsome
    exact exists_frame_of_verdict h (Verdict.match?_eq_some_iff.1 hm)
  · rintro ⟨f, hf, htext⟩
    rw [hfound f hf htext]
    rfl
  · exact Frame.text_injective hf hg (htext.symm.trans htext')

/-- A constructor behind a class loader, with an archive and letters of two
bytes: the span is measured in bytes, and leading zeros do not count. -/
theorem detect_atLine_constructor :
    OpensAt "\tat app//org.größe.Foo.<init>(Föö.java:007) ~[foo.jar:1.2] ".toList
      ∧ (∃ f : Frame, f.WellFormed
          ∧ "\tat app//org.größe.Foo.<init>(Föö.java:007) ~[foo.jar:1.2] ".toList = f.text)
      ∧ Ecosystem.java.detect
          "\tat app//org.größe.Foo.<init>(Föö.java:007) ~[foo.jar:1.2] "
            = some (.stackFrame
                { filePath := "Föö.java"
                  line := 7
                  column := none
                  projectFile := none
                  symbol := some "org.größe.Foo.<init>"
                  span := ⟨32, 46⟩ }) := by
  have hopens :
      OpensAt "\tat app//org.größe.Foo.<init>(Föö.java:007) ~[foo.jar:1.2] ".toList :=
    ⟨['\t'], ' ', _, rfl, List.all_eq_true.1 rfl, by decide⟩
  have hform : Frame.WellFormed
      ⟨['\t'], [' '], "app//".toList, ["org".toList, "größe".toList, "Foo".toList],
        "<init>".toList, .placed "Föö.java".toList "007".toList 7,
        " ~[foo.jar:1.2] ".toList⟩ :=
    { indent := List.all_eq_true.1 rfl
      gap := ⟨by decide, List.all_eq_true.1 rfl⟩
      owner := ⟨List.all_eq_true.1 rfl, .inr ⟨"app/".toList, rfl⟩⟩
      names := ⟨by decide, by decide +kernel⟩
      method := by decide
      site := ⟨isFile_iff.1 (by decide +kernel),
        ⟨by decide, List.all_eq_true.1 rfl, by decide, by decide⟩⟩
      packaging := .inr ⟨[' '], ['~'], "foo.jar:1.2".toList, [' '], rfl, by decide,
        List.all_eq_true.1 rfl, .inl rfl, by decide, List.all_eq_true.1 rfl⟩ }
  have htext : "\tat app//org.größe.Foo.<init>(Föö.java:007) ~[foo.jar:1.2] ".toList
      = Frame.text ⟨['\t'], [' '], "app//".toList,
          ["org".toList, "größe".toList, "Foo".toList], "<init>".toList,
          .placed "Föö.java".toList "007".toList 7, " ~[foo.jar:1.2] ".toList⟩ := by
    decide +kernel
  obtain ⟨-, hfound, -⟩ := detect_atLine _ hopens
  refine ⟨hopens, ⟨_, hform, htext⟩, ?_⟩
  rw [hfound _ hform htext]
  decide +kernel

end ConsoleLinks.Java
