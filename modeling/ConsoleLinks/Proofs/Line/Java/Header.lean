/-
The header law of Java traces: which lines open a trace or a cause within
one.

# The form

A header is white space, perhaps an introduction, names of packages with
dots behind them, the simple name of a throwable, and nothing more or a
colon and a message on the same line (`Header`, `Header.WellFormed`). The
packages may be missing only behind an introduction.

# The law

A line of this form is recognized unless the simple name is one of the
endings itself: `isThrowable` asks for a stem in front of the ending
(`Names.lean`), so `java.lang.Error` is no header although its name ends
in `Error`. Every header that is recognized has the form
(`detect_traceHeader`).

# The proof

Putting together: in front of the first dot of a bare name, and in front
of the first mark of an introduction, stands one run of name characters;
what stops it tells the two apart and keeps both from being `at` lines
(`Header.body_eq_append`). Taking apart: each reader returns a cut of its
input (`of_afterIntroduction?`, `of_isThrown`).
-/
import ConsoleLinks.Line.Ecosystem
import ConsoleLinks.Proofs.Line.Java.Names
import ConsoleLinks.Proofs.Line.Java.Parts
import ConsoleLinks.Proofs.Text.Pieces

namespace ConsoleLinks.Java

open Text

-- ============================================================ the form

/-- The phrases that introduce a throwable. -/
inductive Introduction : List Char → Prop
  | causedBy : Introduction "Caused by: ".toList
  | suppressed : Introduction "Suppressed: ".toList
  | inThread {thread : List Char} :
      '"' ∉ thread →
      Introduction ("Exception in thread \"".toList ++ thread ++ "\" ".toList)

/-- The parts of a header. -/
structure Header where
  indent : List Char
  introduction : List Char
  /-- The names in front of the simple one. -/
  packages : List (List Char)
  /-- The simple name of the throwable. -/
  simple : List Char
  /-- What follows the name, its colon included. -/
  message : List Char

namespace Header

/-- What follows the introduction. -/
def thrown (h : Header) : List Char :=
  ended '.' h.packages ++ h.simple ++ h.message

/-- A header without its indentation. -/
def body (h : Header) : List Char := h.introduction ++ h.thrown

/-- The line the parts stand for. -/
def text (h : Header) : List Char := h.indent ++ h.body

/-- What may follow the name of a throwable. -/
def IsMessage (message : List Char) : Prop :=
  message = [] ∨ ∃ text, message = ':' :: text ∧ '\n' ∉ text

/-- What each part has to be. -/
structure WellFormed (h : Header) : Prop where
  indent : ∀ c ∈ h.indent, isBlank c = true
  introduction :
    Introduction h.introduction ∨ h.introduction = [] ∧ h.packages ≠ []
  packages : ∀ name ∈ h.packages, isName name = true
  simple : isName h.simple = true
  ending : ∃ ending ∈ throwableEndings, ending <:+ h.simple
  message : IsMessage h.message

end Header

-- ========================================================= introductions

/-- An introduction is found and taken off. -/
theorem afterIntroduction?_append {introduction : List Char}
    (h : Introduction introduction) (rest : List Char) :
    afterIntroduction? (introduction ++ rest) = some rest := by
  cases h with
  | causedBy =>
      unfold afterIntroduction?
      rw [afterWord?_append]
  | suppressed =>
      unfold afterIntroduction?
      rw [afterWord?_append]
      rfl
  | @inThread thread hthread =>
      have hquote : (thread ++ ("\" ".toList ++ rest)).dropWhile (· ≠ '"')
          = "\" ".toList ++ rest := by
        refine dropWhile_append_of_boundary (fun c hc => ?_) (fun c hc => ?_)
        · have hne : c ≠ '"' := fun heq => hthread (heq ▸ hc)
          simpa using hne
        · injection hc with hc
          rw [← hc]
          rfl
      unfold afterIntroduction?
      rw [List.append_assoc, List.append_assoc, afterWord?_append]
      dsimp only
      rw [hquote, afterWord?_append]
      rfl

/-- What is taken off is an introduction. -/
theorem of_afterIntroduction? {text rest : List Char}
    (h : afterIntroduction? text = some rest) :
    ∃ introduction, Introduction introduction ∧ text = introduction ++ rest := by
  unfold afterIntroduction? at h
  split at h
  next rest' hcaused =>
    injection h with h
    subst h
    exact ⟨_, .causedBy, eq_append_of_afterWord? hcaused⟩
  next =>
    split at h
    next rest' hsuppressed =>
      injection h with h
      subst h
      exact ⟨_, .suppressed, eq_append_of_afterWord? hsuppressed⟩
    next =>
      split at h
      next => cases h
      next quoted hthread =>
        have hthread := eq_append_of_afterWord? hthread
        have hquote := eq_append_of_afterWord? h
        have hno : '"' ∉ quoted.takeWhile (· ≠ '"') := by
          intro hmem
          have hne := List.all_eq_true.1 List.all_takeWhile _ hmem
          simp at hne
        have hsplit := List.takeWhile_append_dropWhile
          (p := fun c => decide (c ≠ '"')) (l := quoted)
        refine ⟨_, .inThread hno, ?_⟩
        rw [hquote] at hsplit
        rw [List.append_assoc, List.append_assoc, hsplit]
        exact hthread

-- ====================================================== thrown names

/-- No dot occurs in a name. -/
theorem dot_not_mem_of_isName {name : List Char} (h : isName name = true) :
    '.' ∉ name :=
  not_mem_of_isName h (by decide)

/-- No colon occurs in names joined by dots. -/
theorem ne_colon_of_mem_names {packages : List (List Char)} {simple : List Char}
    (hpackages : ∀ name ∈ packages, isName name = true)
    (hsimple : isName simple = true) :
    ∀ c ∈ ended '.' packages ++ simple, decide (c ≠ ':') = true := by
  have hcolon : ∀ name, isName name = true → ':' ∉ name :=
    fun name h => not_mem_of_isName h (by decide)
  intro c hc
  refine decide_eq_true fun heq => ?_
  subst heq
  rcases List.mem_append.1 hc with hc | hc
  · obtain ⟨name, hname, hc⟩ := List.mem_flatMap.1 hc
    rcases List.mem_append.1 hc with hc | hc
    · exact hcolon name (hpackages name hname) hc
    · cases List.mem_singleton.1 hc
  · exact hcolon simple hsimple hc

/-- Names joined by dots with a message behind them are read back: what
is left to ask is whether the last one is a throwable's and whether there
are enough of them. -/
theorem isThrown_names {packages : List (List Char)} {simple message : List Char}
    (hpackages : ∀ name ∈ packages, isName name = true)
    (hsimple : isName simple = true) (hmessage : Header.IsMessage message)
    (count : Nat) :
    isThrown count (ended '.' packages ++ simple ++ message)
      = (isThrowable simple && decide (count ≤ packages.length)) := by
  have hrun := ne_colon_of_mem_names hpackages hsimple
  have hstop : ∀ c ∈ message.head?, decide (c ≠ ':') = false := by
    intro c hc
    rcases hmessage with rfl | ⟨text, rfl, -⟩
    · cases hc
    · injection hc with hc
      subst hc
      rfl
  have hline : '\n' ∉ message := by
    rcases hmessage with rfl | ⟨text, rfl, htext⟩
    · exact List.not_mem_nil
    · simpa using htext
  have hnames : packages.reverse.all isName = true := by
    simpa using hpackages
  unfold isThrown
  rw [takeWhile_append_of_boundary hrun hstop,
    dropWhile_append_of_boundary hrun hstop,
    pieces_ended_append (fun name h => dot_not_mem_of_isName (hpackages name h))
      (dot_not_mem_of_isName hsimple), List.reverse_append]
  simp [hline, hnames]

/-- What is taken for a thrown name is names joined by dots, a
throwable's the last of them, and a message. -/
theorem of_isThrown {count : Nat} {text : List Char}
    (h : isThrown count text = true) :
    ∃ packages simple message,
      text = ended '.' packages ++ simple ++ message
        ∧ (∀ name ∈ packages, isName name = true) ∧ isThrowable simple = true
        ∧ count ≤ packages.length ∧ Header.IsMessage message := by
  unfold isThrown at h
  split at h
  next => cases h
  next simple names hpieces =>
    simp only [Bool.and_eq_true, decide_eq_true_eq, List.all_eq_true,
      Bool.not_eq_true'] at h
    obtain ⟨⟨⟨hsimple, hcount⟩, hnames⟩, hline⟩ := h
    have hjoined := ended_append_of_pieces
      ((List.reverse_eq_cons_iff.1 hpieces) : _ = names.reverse ++ [simple])
    refine ⟨names.reverse, simple, text.dropWhile (· ≠ ':'), ?_,
      fun name hname => hnames name (List.mem_reverse.1 hname), hsimple,
      by rw [List.length_reverse]; exact hcount, ?_⟩
    · rw [hjoined, List.takeWhile_append_dropWhile]
    · cases hmessage : text.dropWhile (· ≠ ':') with
      | nil => exact .inl rfl
      | cons c rest =>
          have hc : c = ':' := by simpa using head_of_dropWhile_eq_cons hmessage
          rw [hmessage, hc] at hline
          refine .inr ⟨rest, by rw [hc], ?_⟩
          simpa using hline

-- ====================================================== how it opens

/-- The names that introductions open with. -/
def introducing : List (List Char) :=
  ["Caused".toList, "Suppressed".toList, "Exception".toList]

/-- An introduction opens with one of its names and a mark that is no
dot. -/
theorem Introduction.eq_append {introduction : List Char}
    (h : Introduction introduction) :
    ∃ word mark rest, introduction = word ++ mark :: rest
      ∧ isName word = true ∧ word ∈ introducing
      ∧ continuesName mark = false ∧ mark ≠ '.' := by
  cases h with
  | causedBy =>
      exact ⟨"Caused".toList, ' ', "by: ".toList, by decide, by decide, by decide,
        by decide, by decide⟩
  | suppressed =>
      exact ⟨"Suppressed".toList, ':', " ".toList, by decide, by decide, by decide,
        by decide, by decide⟩
  | @inThread thread _ =>
      have hphrase : "Exception in thread \"".toList
          = "Exception".toList ++ ' ' :: "in thread \"".toList := by decide
      refine ⟨"Exception".toList, ' ',
        "in thread \"".toList ++ thread ++ "\" ".toList, ?_, by decide, by decide,
        by decide, by decide⟩
      rw [hphrase, List.append_assoc, List.append_assoc, List.append_assoc]
      rfl

/-- With a package in front, the name opens with one and a dot. -/
theorem Header.thrown_eq_append {h : Header} (hform : h.WellFormed)
    (hpackages : h.packages ≠ []) :
    ∃ name rest, h.thrown = name ++ '.' :: rest ∧ isName name = true := by
  cases hnames : h.packages with
  | nil => exact absurd hnames hpackages
  | cons name names =>
      have hmem : name ∈ h.packages := by
        rw [hnames]
        exact List.mem_cons_self ..
      refine ⟨name, ended '.' names ++ h.simple ++ h.message, ?_,
        hform.packages name hmem⟩
      rw [thrown, hnames, ended_cons, List.append_assoc, List.append_assoc,
        List.append_assoc]
      rfl

/-- A header without its indentation opens with a name and a mark that
ends it; the mark is a dot, unless the name belongs to an introduction. -/
theorem Header.body_eq_append {h : Header} (hform : h.WellFormed) :
    ∃ word mark rest, h.body = word ++ mark :: rest ∧ isName word = true
      ∧ continuesName mark = false ∧ (mark = '.' ∨ word ∈ introducing) := by
  rcases hform.introduction with hintro | ⟨hnil, hpackages⟩
  · obtain ⟨word, mark, rest, hintro, hword, hmem, hmark, -⟩ := hintro.eq_append
    refine ⟨word, mark, rest ++ h.thrown, ?_, hword, hmark, .inr hmem⟩
    unfold Header.body
    rw [hintro, List.append_assoc]
    rfl
  · obtain ⟨name, rest, hthrown, hname⟩ := h.thrown_eq_append hform hpackages
    refine ⟨name, '.', rest, ?_, hname, by decide, .inl rfl⟩
    rw [Header.body, hnil, hthrown, List.nil_append]

/-- A bare name in front of a dot is not taken for an introduction. -/
theorem afterIntroduction?_name_dot {name : List Char}
    (hname : isName name = true) (rest : List Char) :
    afterIntroduction? (name ++ '.' :: rest) = none := by
  refine Option.eq_none_iff_forall_ne_some.2 fun rest' h => ?_
  obtain ⟨introduction, hintro, htext⟩ := of_afterIntroduction? h
  obtain ⟨word, mark, tail, hintro, hword, -, hmark, hdot⟩ := hintro.eq_append
  rw [hintro, List.append_assoc, List.cons_append] at htext
  -- both names run up to the first character outside their class
  have hleft : (name ++ '.' :: rest).dropWhile continuesName = '.' :: rest :=
    dropWhile_append_of_boundary (continuesName_of_mem_isName hname)
      (by simp; decide)
  rw [htext, dropWhile_append_of_boundary (continuesName_of_mem_isName hword)
    (by simpa using hmark)] at hleft
  injection hleft with heq
  exact hdot heq

namespace Header

variable {h : Header}

/-- The indentation of a header is its leading white space. -/
theorem dropBlanks_text (hform : h.WellFormed) : dropBlanks h.text = h.body := by
  obtain ⟨word, mark, rest, hbody, hword, -⟩ := body_eq_append hform
  refine dropWhile_append_of_boundary hform.indent fun c hc => ?_
  cases hblank : isBlank c with
  | false => rfl
  | true =>
      have hmem : c ∈ word := by
        rw [hbody] at hc
        cases word with
        | nil => cases hword
        | cons d word =>
            injection hc with hc
            rw [← hc]
            exact List.mem_cons_self ..
      have hname := continuesName_of_mem_isName hword c hmem
      rw [continuesName_of_isBlank hblank] at hname
      cases hname

/-- A header counts no frames. -/
theorem isElision_text (hform : h.WellFormed) : isElision h.text = false := by
  obtain ⟨word, mark, rest, hbody, hword, -⟩ := body_eq_append hform
  unfold isElision
  rw [dropBlanks_text hform]
  cases hdots : afterWord? "... ".toList h.body with
  | none => rfl
  | some behind =>
      have hopen := eq_append_of_afterWord? hdots
      rw [hbody] at hopen
      cases word with
      | nil => cases hword
      | cons c word =>
          injection hopen with hc _
          subst hc
          exact absurd (isNameOf_cons.1 hword).1 (by decide)

/-- A header is no `at` line. -/
theorem ofLine?_text (hform : h.WellFormed) : AtLine.ofLine? h.text = none := by
  obtain ⟨word, mark, rest, hbody, hword, hmark, hat⟩ := body_eq_append hform
  refine Option.eq_none_iff_forall_ne_some.2 fun l hl => ?_
  obtain ⟨htext, indent, gap, owner, hopening, hindent, hgap, hblank⟩ :=
    AtLine.of_ofLine? hl
  obtain ⟨g, gap, rfl⟩ := List.exists_cons_of_ne_nil hgap
  have hg := hblank g (List.mem_cons_self ..)
  obtain ⟨tail, hline⟩ : ∃ tail, h.text = indent ++ ("at".toList ++ g :: tail) :=
    ⟨gap ++ owner ++ l.symbol ++ ['('] ++ l.source ++ [')'] ++ l.packaging, by
      rw [← htext, AtLine.text, hopening]
      simp⟩
  have hfront : ∀ c ∈ ("at".toList ++ g :: tail).head?, isBlank c = false := by
    intro c hc
    have hc : 'a' = c := Option.some.inj hc
    subst hc
    decide
  have hopen : "at".toList ++ g :: tail = word ++ mark :: rest := by
    rw [← hbody, ← dropBlanks_text hform, hline]
    exact (dropWhile_append_of_boundary hindent hfront).symm
  -- both names run up to the first character outside their class
  have hrun : ∀ c ∈ "at".toList, continuesName c = true :=
    List.all_eq_true.1 rfl
  have hg' : ∀ c ∈ (g :: tail).head?, continuesName c = false := by
    simpa using continuesName_of_isBlank hg
  have hmark' : ∀ c ∈ (mark :: rest).head?, continuesName c = false := by
    simpa using hmark
  have hword' := congrArg (List.takeWhile continuesName) hopen
  rw [takeWhile_append_of_boundary hrun hg',
    takeWhile_append_of_boundary (continuesName_of_mem_isName hword) hmark']
    at hword'
  have hmark'' : mark = '.' := hat.resolve_right (by rw [← hword']; decide)
  subst hmark''
  rw [← hword'] at hopen
  injection List.append_cancel_left hopen with heq _
  subst heq
  revert hg
  decide

/-- A line of the form is a header exactly when the simple name is more
than one of the endings. -/
theorem isHeader_text (hform : h.WellFormed) :
    isHeader h.text = decide (h.simple ∉ throwableEndings) := by
  have hthrow : isThrowable h.simple = decide (h.simple ∉ throwableEndings) := by
    rw [Bool.eq_iff_iff, isThrowable_iff, decide_eq_true_iff]
    exact ⟨fun hall => hall.2.2, fun hmem => ⟨hform.simple, hform.ending, hmem⟩⟩
  have hthrown := isThrown_names hform.packages hform.simple hform.message
  unfold isHeader
  dsimp only
  rw [dropBlanks_text hform]
  rcases hform.introduction with hintro | ⟨hnil, hpackages⟩
  · rw [body, afterIntroduction?_append hintro]
    simp only [thrown, hthrown, hthrow, Nat.zero_le, decide_true, Bool.and_true]
  · have hbody : h.body = h.thrown := by rw [body, hnil, List.nil_append]
    have hcount : 1 ≤ h.packages.length := List.length_pos_iff.2 hpackages
    have hnone : afterIntroduction? h.thrown = none := by
      obtain ⟨name, rest, hthrown', hname⟩ := thrown_eq_append hform hpackages
      rw [hthrown']
      exact afterIntroduction?_name_dot hname rest
    rw [hbody, hnone]
    simp only [thrown, hthrown, hthrow, hcount, decide_true, Bool.and_true]

/-- What the grammar makes of a line of the form. -/
theorem verdict_text (hform : h.WellFormed) :
    verdict h.text
      = if h.simple ∈ throwableEndings then .unrelated
        else .recognized .traceHeader := by
  unfold verdict
  simp only [ofLine?_text hform, isElision_text hform, isHeader_text hform,
    Bool.false_eq_true, if_false, decide_eq_true_iff, ite_not]

end Header

-- ========================================================== the law

/-- Every header has the form. -/
theorem exists_of_isHeader {line : List Char} (h : isHeader line = true) :
    ∃ parts : Header, parts.WellFormed ∧ parts.simple ∉ throwableEndings
      ∧ line = parts.text := by
  have hline : line.takeWhile isBlank ++ dropBlanks line = line :=
    List.takeWhile_append_dropWhile
  have hindent : ∀ c ∈ line.takeWhile isBlank, isBlank c = true :=
    List.all_eq_true.1 List.all_takeWhile
  unfold isHeader at h
  dsimp only at h
  split at h
  next thrown hintro =>
    obtain ⟨introduction, hintroduction, hbody⟩ := of_afterIntroduction? hintro
    obtain ⟨packages, simple, message, hthrown, hpackages, hsimple, -,
      hmessage⟩ := of_isThrown h
    obtain ⟨hname, hending, hmore⟩ := isThrowable_iff.1 hsimple
    refine ⟨⟨_, introduction, packages, simple, message⟩,
      ⟨hindent, .inl hintroduction, hpackages, hname, hending, hmessage⟩, hmore,
      ?_⟩
    rw [Header.text, Header.body, Header.thrown, ← hthrown, ← hbody, hline]
  next =>
    obtain ⟨packages, simple, message, hthrown, hpackages, hsimple, hcount,
      hmessage⟩ := of_isThrown h
    obtain ⟨hname, hending, hmore⟩ := isThrowable_iff.1 hsimple
    refine ⟨⟨_, [], packages, simple, message⟩,
      ⟨hindent, .inr ⟨rfl, List.length_pos_iff.1 hcount⟩, hpackages, hname,
        hending, hmessage⟩, hmore, ?_⟩
    rw [Header.text, Header.body, Header.thrown, ← hthrown, List.nil_append, hline]

/-- The header law. A line of the form is recognized as a header, unless
its simple name is one of the endings and nothing more; then it is not
recognized at all. Every line recognized as a header has the form, with
such a name. -/
theorem detect_traceHeader (line : String) :
    (∀ h : Header, h.WellFormed → line.toList = h.text →
      Ecosystem.java.detect line
        = if h.simple ∈ throwableEndings then none else some .traceHeader)
      ∧ (Ecosystem.java.detect line = some .traceHeader →
          ∃ h : Header, h.WellFormed ∧ h.simple ∉ throwableEndings
            ∧ line.toList = h.text) := by
  constructor
  · intro h hform htext
    rw [Ecosystem.detect, Ecosystem.verdict, htext, Header.verdict_text hform]
    split
    next => rfl
    next => rfl
  · intro hdetect
    rw [Ecosystem.detect, Ecosystem.verdict] at hdetect
    cases hverdict : verdict line.toList with
    | unrelated =>
        rw [hverdict] at hdetect
        cases hdetect
    | unusable fault =>
        rw [hverdict] at hdetect
        cases hdetect
    | recognized found =>
        rw [hverdict] at hdetect
        injection hdetect with hfound
        rw [hfound] at hverdict
        rcases of_verdict hverdict with
          ⟨_, _, _, _, -, -, -, hm⟩ | ⟨hm, -⟩ | ⟨-, -, -, hheader⟩
        · cases hm
        · cases hm
        · exact exists_of_isHeader hheader

/-- The trace of a plain `java.lang.Exception` opens with a line that has
the form and is not recognized. -/
theorem detect_plainException :
    ¬ ∀ h : Header, h.WellFormed →
        Ecosystem.java.detect (String.ofList h.text) = some .traceHeader := by
  intro hall
  have hform : Header.WellFormed ⟨[], [], ["java".toList, "lang".toList],
      "Exception".toList, ": boom".toList⟩ :=
    { indent := List.all_eq_true.1 rfl
      introduction := .inr ⟨rfl, by decide⟩
      packages := List.all_eq_true.1 rfl
      simple := by decide
      ending := ⟨"Exception".toList, by decide, [], rfl⟩
      message := .inr ⟨" boom".toList, by decide, by decide⟩ }
  have hdetect := hall _ hform
  revert hdetect
  decide +kernel

end ConsoleLinks.Java
