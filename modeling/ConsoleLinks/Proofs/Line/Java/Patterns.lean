/-
The patterns of the Java grammar, and that its readers decide them: a
line fits a pattern exactly when the reader for its shape accepts it
(`fits_headerPattern`, `fits_elisionPattern`, `fits_framePattern`,
`fits_sourcelessPattern`).

Each pattern is put together from patterns for the parts of a line, and
each part has its own equivalence with the reader's test for it. The two
`at` line patterns differ in the source between the parentheses alone, so
they are one definition with the source as its parameter
(`atPattern`, `fits_atPattern`).

Consumed by the shapes of lines (`Proofs/Line/Shapes.lean`).
-/
import ConsoleLinks.Proofs.Line.Java.AtLine
import ConsoleLinks.Proofs.Line.Java.Header
import ConsoleLinks.Proofs.Text.Pattern

namespace ConsoleLinks.Java

open Text Text.Pattern

-- ======================================================== the patterns

/-- The name of a package, a class or a plain method. -/
def namePattern : Pattern := one opensName ++ many (one continuesName)

/-- A phrase that introduces a throwable. -/
def introductionPattern : Pattern :=
  word "Caused by: " ||| word "Suppressed: "
    ||| word "Exception in thread \"" ++ many (one (· ≠ '"')) ++ word "\" "

/-- The simple name of a throwable. -/
def throwablePattern : Pattern :=
  namePattern ++ (word "Exception" ||| word "Error" ||| word "Throwable")

/-- The first line of a trace, or of a cause within one. -/
def headerPattern : Pattern :=
  blanks
    ++ (introductionPattern ++ many (namePattern ++ word ".")
      ||| oneOrMore (namePattern ++ word "."))
    ++ throwablePattern ++ message

/-- The module or class-loader part of an `at` line. -/
def modulePattern : Pattern :=
  many (many (one fun c => isWord c || c = '$' || c = '.' || c = '@' || c = '-')
    ++ word "/")

/-- The qualified name of a method. -/
def symbolPattern : Pattern :=
  oneOrMore (namePattern ++ word ".")
    ++ (oneOrMore (one continuesName) ||| word "<init>" ||| word "<clinit>")

/-- The name of a source file. -/
def filePattern : Pattern :=
  oneOrMore (one fun c => c ≠ '(' && c ≠ ')' && c ≠ '/' && c ≠ '\\' && c ≠ ':')
    ++ word ".java"

/-- What may follow the closing parenthesis. -/
def packagingPattern : Pattern :=
  maybe (gap ++ maybe (word "~") ++ word "[" ++ many (one (· ≠ ']')) ++ word "]")
    ++ blanks

/-- An `at` line with a given source between its parentheses. -/
def atPattern (source : Pattern) : Pattern :=
  blanks ++ word "at" ++ gap ++ modulePattern ++ symbolPattern ++ word "("
    ++ source ++ word ")" ++ packagingPattern

/-- A file and a line number. -/
def positionPattern : Pattern := filePattern ++ word ":" ++ digits

/-- What stands in place of a position. -/
def sourcelessPattern : Pattern :=
  word "Native Method" ||| word "Unknown Source" ||| filePattern

/-- A frame with a position. -/
def framePattern : Pattern := atPattern positionPattern

/-- A frame without a position. -/
def sourcelessFramePattern : Pattern := atPattern sourcelessPattern

/-- How the line ends that counts frames left out. -/
def elisionPhrase : Pattern := word "more" ||| word "common frames omitted"

/-- The line that counts frames left out. -/
def elisionPattern : Pattern :=
  blanks ++ word "... " ++ digits ++ word " " ++ elisionPhrase ++ blanks

-- ============================================================= headers

theorem fits_namePattern {text : List Char} :
    namePattern.Fits text ↔ isName text = true := fits_isNameOf

theorem fits_introductionPattern {text : List Char} :
    introductionPattern.Fits text ↔ Introduction text := by
  constructor
  · intro h
    rcases h with (rfl | rfl) | h
    · exact .causedBy
    · exact .suppressed
    · obtain ⟨_, _, rfl, h, rfl⟩ := h
      obtain ⟨_, thread, rfl, rfl, hthread⟩ := h
      exact .inThread fun hmem => of_decide_eq_true (fits_many_one.1 hthread _ hmem) rfl
  · intro h
    cases h with
    | causedBy => exact .inl (.inl rfl)
    | suppressed => exact .inl (.inr rfl)
    | @inThread thread hthread =>
        refine .inr (((fits_word _).append (fits_many_one.2 fun c hc => ?_)).append
          (fits_word _))
        exact decide_eq_true fun heq => hthread (heq ▸ hc)

theorem fits_throwablePattern {text : List Char} :
    throwablePattern.Fits text ↔ isThrowable text = true := by
  have hendings : ∀ ending, (word "Exception" ||| word "Error"
      ||| word "Throwable").Fits ending ↔ ending ∈ throwableEndings := by
    intro ending
    simp only [throwableEndings, List.mem_cons, List.not_mem_nil, or_false,
      fits_or, Fits, or_assoc]
  unfold isThrowable
  rw [List.any_eq_true]
  constructor
  · rintro ⟨stem, ending, rfl, hstem, hending⟩
    refine ⟨ending, (hendings ending).1 hending, ?_⟩
    rw [beforeWord?_eq_some_iff.2 rfl]
    exact fits_namePattern.1 hstem
  · rintro ⟨ending, hending, hstem⟩
    split at hstem
    next stem hword =>
      exact ⟨stem, ending, beforeWord?_eq_some_iff.1 hword,
        fits_namePattern.2 hstem, (hendings ending).2 hending⟩
    next => cases hstem

/-- A header put together from its parts is read as one. -/
theorem isHeader_of_isThrowable {h : Header}
    (hindent : ∀ c ∈ h.indent, isBlank c = true)
    (hintroduction : Introduction h.introduction
      ∨ h.introduction = [] ∧ h.packages ≠ [])
    (hpackages : ∀ name ∈ h.packages, isName name = true)
    (hsimple : isThrowable h.simple = true) (hmessage : Header.IsMessage h.message) :
    isHeader h.text = true := by
  obtain ⟨hname, hending, hmore⟩ := isThrowable_iff.1 hsimple
  have hform : h.WellFormed :=
    ⟨hindent, hintroduction, hpackages, hname, hending, hmessage⟩
  rw [Header.isHeader_text hform]
  exact decide_eq_true hmore

/-- The header pattern is what the test for headers accepts. -/
theorem fits_headerPattern {line : List Char} :
    headerPattern.Fits line ↔ isHeader line = true := by
  have hdot : ".".toList = ['.'] := rfl
  constructor
  · intro h
    obtain ⟨_, behind, rfl, h, hmessage⟩ := h
    obtain ⟨_, simple, rfl, h, hsimple⟩ := h
    obtain ⟨indent, front, rfl, hindent, hfront⟩ := h
    have hindent := fits_many_one.1 hindent
    have hsimple := fits_throwablePattern.1 hsimple
    have hmessage : Header.IsMessage _ := fits_message.1 hmessage
    rcases hfront with ⟨introduction, _, rfl, hintro, hnames⟩ | hnames
    · obtain ⟨packages, rfl, hpackages⟩ := (fits_many_ended hdot).1 hnames
      have hheader := isHeader_of_isThrowable
        (h := ⟨indent, introduction, packages, simple, behind⟩) hindent
        (.inl (fits_introductionPattern.1 hintro))
        (fun name hname => fits_namePattern.1 (hpackages name hname)) hsimple hmessage
      simpa [Header.text, Header.body, Header.thrown] using hheader
    · obtain ⟨packages, hne, rfl, hpackages⟩ := (fits_oneOrMore_ended hdot).1 hnames
      have hheader := isHeader_of_isThrowable
        (h := ⟨indent, [], packages, simple, behind⟩) hindent (.inr ⟨rfl, hne⟩)
        (fun name hname => fits_namePattern.1 (hpackages name hname)) hsimple hmessage
      simpa [Header.text, Header.body, Header.thrown] using hheader
  · intro h
    obtain ⟨parts, hform, hmore, rfl⟩ := exists_of_isHeader h
    have hsimple : throwablePattern.Fits parts.simple :=
      fits_throwablePattern.2 (isThrowable_iff.2 ⟨hform.simple, hform.ending, hmore⟩)
    have hpackages : ∀ name ∈ parts.packages, namePattern.Fits name :=
      fun name hname => fits_namePattern.2 (hform.packages name hname)
    have hindent : blanks.Fits parts.indent := fits_many_one.2 hform.indent
    have hmessage := fits_message.2 hform.message
    have htext : parts.text = parts.indent
        ++ (parts.introduction ++ ended '.' parts.packages)
        ++ parts.simple ++ parts.message := by
      simp [Header.text, Header.body, Header.thrown]
    rw [htext]
    refine ((hindent.append ?_).append hsimple).append hmessage
    rcases hform.introduction with hintro | ⟨hnil, hne⟩
    · exact .left ((fits_introductionPattern.2 hintro).append
        ((fits_many_ended hdot).2 ⟨_, rfl, hpackages⟩))
    · rw [hnil, List.nil_append]
      exact .right ((fits_oneOrMore_ended hdot).2 ⟨_, hne, rfl, hpackages⟩)

-- ============================================================ at lines

theorem fits_modulePattern {text : List Char} :
    modulePattern.Fits text ↔ IsModulePart text := by
  rw [modulePattern, fits_many_ended (c := '/') rfl]
  constructor
  · rintro ⟨parts, rfl, hparts⟩
    refine ⟨fun c hc => ?_, ?_⟩
    · rcases eq_or_exists_of_mem_ended hc with rfl | ⟨part, hpart, hc⟩
      · decide
      · have hsegment := fits_many_one.1 (hparts part hpart) c hc
        simp only [inModule, hsegment, Bool.true_or]
    · rcases List.eq_nil_or_concat parts with rfl | ⟨front, last, rfl⟩
      · exact .inl rfl
      · refine .inr ⟨ended '/' front ++ last, ?_⟩
        simp [ended, List.concat_eq_append]
  · rintro ⟨hchars, hend⟩
    obtain ⟨parts, last, hpieces⟩ := exists_eq_concat_pieces '/' text
    have htext := ended_append_of_pieces hpieces
    have hslash : ∀ part ∈ parts ++ [last], '/' ∉ part := fun part hpart =>
      not_mem_of_mem_pieces (hpieces ▸ hpart)
    have hlast : last = [] := by
      rcases hend with rfl | ⟨front, hfront⟩
      · exact (List.append_eq_nil_iff.1 htext).2
      · rcases List.eq_nil_or_concat last with hnil | ⟨body, c, rfl⟩
        · exact hnil
        · rw [List.concat_eq_append, ← List.append_assoc] at htext
          obtain ⟨-, hc⟩ := List.append_inj' (htext.trans hfront.symm) rfl
          refine absurd ?_ (hslash _ (List.mem_append_right _ (List.mem_singleton_self _)))
          rw [List.concat_eq_append, hc]
          exact List.mem_append_right _ (List.mem_singleton_self _)
    rw [hlast, List.append_nil] at htext
    refine ⟨parts, htext.symm, fun part hpart => fits_many_one.2 fun c hc => ?_⟩
    have hmodule : inModule c = true := by
      refine hchars c ?_
      rw [← htext]
      exact List.mem_flatMap.2 ⟨part, hpart, List.mem_append_left _ hc⟩
    have hne : c ≠ '/' := fun heq =>
      hslash part (List.mem_append_left _ hpart) (heq ▸ hc)
    simpa [inModule, hne] using hmodule

theorem fits_symbolPattern {text : List Char} :
    symbolPattern.Fits text ↔ isSymbol text = true := by
  have hmethod : ∀ method, (oneOrMore (one continuesName) ||| word "<init>"
      ||| word "<clinit>").Fits method ↔ isMethod method = true := by
    intro method
    simp only [fits_or, fits_oneOrMore_one, Fits, isMethod, Bool.or_eq_true,
      Bool.and_eq_true, Bool.not_eq_true', List.isEmpty_eq_false_iff, decide_eq_true_eq,
      List.all_eq_true]
  rw [isSymbol_iff]
  constructor
  · rintro ⟨_, method, rfl, hnames, hlast⟩
    obtain ⟨names, hne, rfl, hall⟩ := (fits_oneOrMore_ended (c := '.') rfl).1 hnames
    exact ⟨names, method, rfl, hne,
      fun name hname => fits_namePattern.1 (hall name hname), (hmethod method).1 hlast⟩
  · rintro ⟨names, method, rfl, hne, hnames, hlast⟩
    exact ((fits_oneOrMore_ended (c := '.') rfl).2 ⟨names, hne, rfl,
      fun name hname => fits_namePattern.2 (hnames name hname)⟩).append
        ((hmethod method).2 hlast)

theorem fits_packagingPattern {text : List Char} :
    packagingPattern.Fits text ↔ isPackaging text = true := by
  rw [isPackaging_iff]
  constructor
  · intro h
    obtain ⟨_, closing, rfl, hbracket | rfl, hclosing⟩ := h
    · obtain ⟨_, _, rfl, hbracket, rfl⟩ := hbracket
      obtain ⟨_, inside, rfl, hbracket, hinside⟩ := hbracket
      obtain ⟨_, _, rfl, hbracket, rfl⟩ := hbracket
      obtain ⟨space, tilde, rfl, hspace, htilde⟩ := hbracket
      obtain ⟨hne, hspace⟩ := fits_oneOrMore_one.1 hspace
      refine .inr ⟨space, tilde, inside, closing, by simp, hne, hspace, htilde,
        fun hmem => ?_, fits_many_one.1 hclosing⟩
      exact of_decide_eq_true (fits_many_one.1 hinside _ hmem) rfl
    · exact .inl (fits_many_one.1 hclosing)
  · intro h
    rcases h with hblank | ⟨space, tilde, inside, closing, rfl, hne, hspace, htilde,
      hinside, hclosing⟩
    · exact ⟨[], text, rfl, .right rfl, fits_many_one.2 hblank⟩
    · have hinside' : (many (one (· ≠ ']'))).Fits inside :=
        fits_many_one.2 fun c hc => decide_eq_true fun heq => hinside (heq ▸ hc)
      have htilde' : (maybe (word "~")).Fits tilde := htilde
      have hbracket := ((((fits_oneOrMore_one.2 ⟨hne, hspace⟩).append htilde').append
        (fits_word "[")).append hinside').append (fits_word "]")
      have hfits : packagingPattern.Fits _ :=
        hbracket.left.append (fits_many_one.2 hclosing)
      simpa using hfits

-- ============================================================= sources

theorem fits_filePattern {text : List Char} :
    filePattern.Fits text ↔ isFile text = true := by
  unfold isFile
  rw [Bool.and_eq_true, List.all_eq_true]
  constructor
  · rintro ⟨stem, _, rfl, hstem, rfl⟩
    obtain ⟨hne, hchars⟩ := fits_oneOrMore_one.1 hstem
    refine ⟨fun c hc => ?_, ?_⟩
    · have hending : ".java".toList.all (fun d => d ≠ '(' && d ≠ ')' && d ≠ '/'
          && d ≠ '\\' && d ≠ ':') = true := by decide
      rcases List.mem_append.1 hc with hc | hc
      · exact hchars c hc
      · exact List.all_eq_true.1 hending c hc
    · rw [beforeWord?_eq_some_iff.2 rfl]
      simpa using hne
  · rintro ⟨hchars, hstem⟩
    split at hstem
    next stem hword =>
      have htext := beforeWord?_eq_some_iff.1 hword
      subst htext
      exact ⟨stem, _, rfl, fits_oneOrMore_one.2 ⟨by simpa using hstem,
        fun c hc => hchars c (List.mem_append_left _ hc)⟩, rfl⟩
    next => cases hstem

theorem fits_positionPattern {text : List Char} :
    positionPattern.Fits text
      ↔ ∃ file number, Source.ofText? text = some (.position file number) := by
  simp only [Source.ofText?_eq_position_iff]
  constructor
  · intro h
    obtain ⟨_, number, rfl, h, hnumber⟩ := h
    obtain ⟨file, _, rfl, hfile, rfl⟩ := h
    obtain ⟨hne, hdigits⟩ := fits_oneOrMore_one.1 hnumber
    exact ⟨file, number, by simp, fits_filePattern.1 hfile, hne, hdigits⟩
  · rintro ⟨file, number, rfl, hfile, hne, hdigits⟩
    have hfits : positionPattern.Fits _ := ((fits_filePattern.2 hfile).append
      (fits_word ":")).append (fits_oneOrMore_one.2 ⟨hne, hdigits⟩)
    simpa using hfits

theorem fits_sourcelessPattern {text : List Char} :
    sourcelessPattern.Fits text ↔ Source.ofText? text = some .noPosition := by
  rw [Source.ofText?_eq_noPosition_iff, sourcelessPattern, fits_or, fits_or,
    fits_filePattern, or_assoc]
  exact Iff.rfl

-- ============================================================== frames

/-- An `at` line pattern is what the reader of `at` lines accepts with a
source that fits. -/
theorem fits_atPattern {source : Pattern}
    (hsource : ∀ text, source.Fits text → ')' ∉ text) {line : List Char} :
    (atPattern source).Fits line
      ↔ ∃ l, AtLine.ofLine? line = some l ∧ source.Fits l.source := by
  simp only [AtLine.ofLine?_eq_some_iff]
  constructor
  · intro h
    -- the parts, from the last to the first
    obtain ⟨_, packaging, rfl, h, hpackaging⟩ := h
    obtain ⟨_, _, rfl, h, rfl⟩ := h
    obtain ⟨_, inside, rfl, h, hinside⟩ := h
    obtain ⟨_, _, rfl, h, rfl⟩ := h
    obtain ⟨_, symbol, rfl, h, hsymbol⟩ := h
    obtain ⟨_, owner, rfl, h, howner⟩ := h
    obtain ⟨_, space, rfl, h, hspace⟩ := h
    obtain ⟨indent, _, rfl, hindent, rfl⟩ := h
    obtain ⟨hne, hspace⟩ := fits_oneOrMore_one.1 hspace
    refine ⟨⟨indent ++ "at".toList ++ space ++ owner, symbol, inside, packaging⟩,
      ⟨?_, ?_⟩, hinside⟩
    · simp [AtLine.text]
    · exact ⟨⟨indent, space, owner, rfl, fits_many_one.1 hindent, hne, hspace,
        fits_modulePattern.1 howner⟩, fits_symbolPattern.1 hsymbol,
        hsource inside hinside, fits_packagingPattern.1 hpackaging⟩
  · rintro ⟨⟨opening, symbol, inside, packaging⟩, ⟨rfl, hform⟩, hinside⟩
    obtain ⟨⟨indent, space, owner, hopening, hindent, hne, hspace, howner⟩, hsymbol, -,
      hpackaging⟩ := hform
    dsimp only at hopening hsymbol hpackaging hinside
    have hindent' : blanks.Fits indent := fits_many_one.2 hindent
    have hspace' : gap.Fits space := fits_oneOrMore_one.2 ⟨hne, hspace⟩
    rw [AtLine.text, hopening]
    exact ((((((((hindent'.append (fits_word "at")).append hspace').append
      (fits_modulePattern.2 howner)).append (fits_symbolPattern.2 hsymbol)).append
      (fits_word "(")).append hinside).append (fits_word ")")).append
      (fits_packagingPattern.2 hpackaging))

/-- The frame pattern is what is read as an `at` line with a position. -/
theorem fits_framePattern {line : List Char} :
    framePattern.Fits line
      ↔ ∃ l file number, AtLine.ofLine? line = some l
          ∧ Source.ofText? l.source = some (.position file number) := by
  rw [framePattern, fits_atPattern]
  · simp only [fits_positionPattern, exists_and_left]
  · intro text htext
    obtain ⟨file, number, hread⟩ := fits_positionPattern.1 htext
    exact not_mem_of_ofText? hread

/-- The sourceless pattern is what is read as an `at` line without a
position. -/
theorem fits_sourcelessFramePattern {line : List Char} :
    sourcelessFramePattern.Fits line
      ↔ ∃ l, AtLine.ofLine? line = some l
          ∧ Source.ofText? l.source = some .noPosition := by
  rw [sourcelessFramePattern, fits_atPattern]
  · simp only [fits_sourcelessPattern]
  · exact fun text htext => not_mem_of_ofText? (fits_sourcelessPattern.1 htext)

-- ============================================================ elisions

/-- A count put together from its parts is read as one. -/
theorem isElision_append {indent number phrase closing : List Char}
    (hindent : blanks.Fits indent) (hnumber : digits.Fits number)
    (hphrase : elisionPhrase.Fits phrase) (hclosing : blanks.Fits closing) :
    isElision (indent ++ ("... ".toList ++ (number ++ (' ' :: phrase ++ closing)))) = true := by
  obtain ⟨hne, hdigits⟩ := fits_oneOrMore_one.1 hnumber
  have hdots : dropBlanks (indent ++ ("... ".toList ++ (number ++ (' ' :: phrase ++ closing))))
      = "... ".toList ++ (number ++ (' ' :: phrase ++ closing)) :=
    dropWhile_append_of_boundary (fits_many_one.1 hindent) (boundary_cons (by decide) _)
  have hstop : ∀ c ∈ (' ' :: phrase ++ closing).head?, isDigit c = false :=
    boundary_cons (by decide) _
  have hlast : ∀ c ∈ (' ' :: phrase).getLast?, isBlank c = false := by
    rcases hphrase with rfl | rfl
    · simp; decide
    · simp; decide
  have hend : dropBlanksEnd (' ' :: phrase ++ closing) = ' ' :: phrase :=
    dropBlanksEnd_append_of_boundary (fits_many_one.1 hclosing) hlast
  unfold isElision
  rw [hdots, afterWord?_append]
  dsimp only
  rw [takeWhile_append_of_boundary hdigits hstop,
    dropWhile_append_of_boundary hdigits hstop, hend]
  rcases hphrase with rfl | rfl
  · simpa using hne
  · simpa using hne

/-- What is read as a count is one. -/
theorem of_isElision {line : List Char} (h : isElision line = true) :
    ∃ indent number phrase closing,
      line = indent ++ ("... ".toList ++ (number ++ (' ' :: phrase ++ closing)))
        ∧ blanks.Fits indent ∧ digits.Fits number ∧ elisionPhrase.Fits phrase
        ∧ blanks.Fits closing := by
  unfold isElision at h
  split at h
  next => cases h
  next rest hdots =>
    simp only [Bool.and_eq_true, Bool.or_eq_true, decide_eq_true_eq, Bool.not_eq_true',
      List.isEmpty_eq_false_iff] at h
    obtain ⟨hne, hend⟩ := h
    obtain ⟨phrase, hphrase, hend⟩ : ∃ phrase : List Char, elisionPhrase.Fits phrase
        ∧ dropBlanksEnd (rest.dropWhile isDigit) = ' ' :: phrase := by
      rcases hend with hend | hend
      · exact ⟨_, .left rfl, hend⟩
      · exact ⟨_, .right rfl, hend⟩
    obtain ⟨indent, hindent, hline⟩ := exists_run (eq_append_of_afterWord? hdots)
    obtain ⟨number, hnumber, hrest⟩ := exists_run_of_ne_nil hne rfl
    obtain ⟨closing, hclosing, hbehind⟩ := exists_closing hend
    rw [hbehind] at hrest
    exact ⟨indent, number, phrase, closing, by rw [hline, hrest], hindent, hnumber,
      hphrase, hclosing⟩

/-- The elision pattern is what is read as a count of frames left out. -/
theorem fits_elisionPattern {line : List Char} :
    elisionPattern.Fits line ↔ isElision line = true := by
  constructor
  · intro h
    obtain ⟨_, closing, rfl, h, hclosing⟩ := h
    obtain ⟨_, phrase, rfl, h, hphrase⟩ := h
    obtain ⟨_, _, rfl, h, rfl⟩ := h
    obtain ⟨_, number, rfl, h, hnumber⟩ := h
    obtain ⟨indent, _, rfl, hindent, rfl⟩ := h
    have helision := isElision_append hindent hnumber hphrase hclosing
    simpa using helision
  · intro h
    obtain ⟨indent, number, phrase, closing, rfl, hindent, hnumber, hphrase, hclosing⟩ :=
      of_isElision h
    have hfits : elisionPattern.Fits _ := ((((hindent.append (fits_word "... ")).append
      hnumber).append (fits_word " ")).append hphrase).append hclosing
    simpa using hfits

end ConsoleLinks.Java
