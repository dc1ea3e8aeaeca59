/-
The patterns of the .NET grammar. The readers of headers and end markers
decide theirs (`fits_headerPattern`, `fits_innerHeaderPattern`,
`fits_endMarkerPattern`); frames and diagnostics, which are searched for,
have their own modules (`Frames.lean`, `Diagnostics.lean`).
-/
import ConsoleLinks.Line.CSharp
import ConsoleLinks.Proofs.Text.Classes
import ConsoleLinks.Proofs.Text.Pattern
import ConsoleLinks.Proofs.Text.Runs

namespace ConsoleLinks.CSharp

open Text Text.Pattern

-- ======================================================== the patterns

/-- The name of a namespace or a type. -/
def namePattern : Pattern := one opensName ++ many (one continuesName)

/-- The first line of a trace of an exception that nobody caught. -/
def headerPattern : Pattern :=
  (word "Unhandled Exception: " ||| word "Unhandled exception. ")
    ++ (many (namePattern ++ word ".") ++ namePattern ++ message)

/-- The line that introduces an inner exception. -/
def innerHeaderPattern : Pattern :=
  blanks ++ word "---> " ++ (oneOrMore (namePattern ++ word ".") ++ namePattern ++ message)

/-- The phrases of the lines that close a part of a trace. -/
def markerPattern : Pattern :=
  word "--- End of "
    ++ (word "inner exception stack trace"
      ||| word "stack trace from previous location"
        ++ maybe (word " where exception was thrown"))
    ++ word " ---"

/-- A line that closes a part of a trace. -/
def endMarkerPattern : Pattern := blanks ++ (markerPattern ++ blanks)

/-- A file, with what links it to the call in front of it. -/
def linkPattern : Pattern := gap ++ word "in" ++ gap ++ (mark ++ Pattern.line)

/-- The rest of a call, and the file behind it. -/
def callPattern : Pattern := beyond ")" linkPattern

/-- A frame with a source file. -/
def framePattern : Pattern :=
  blanks ++ word "at" ++ gap ++ (mark ++ callPattern) ++ word ":line " ++ digits ++ blanks

/-- A line and a column, or a range from one to another. -/
def placePattern : Pattern :=
  digits ++ word "," ++ digits ++ maybe (word "," ++ digits ++ word "," ++ digits)
    ++ word ")"

/-- What a diagnostic can be. -/
def kindPattern : Pattern := word "error" ||| word "warning"

/-- The code of a diagnostic. -/
def codePattern : Pattern :=
  blanks ++ word ":" ++ gap ++ kindPattern ++ gap ++ oneOrMore (one Char.isAlpha)
    ++ digits ++ blanks ++ word ":"

/-- The message of a diagnostic, with its project where there is one. -/
def textPattern : Pattern :=
  Pattern.line
    ++ maybe (one isBlank ++ word "[" ++ oneOrMore (one fun c => c ≠ '[' && c ≠ ']')
      ++ word "]")
    ++ blanks

/-- A place, with the code and the message that follow it. -/
def placedPattern : Pattern := placePattern ++ codePattern ++ textPattern

/-- The rest of a file name, and the place in the file. -/
def locationPattern : Pattern := beyond "(" placedPattern

/-- A compiler diagnostic. -/
def diagnosticPattern : Pattern := blanks ++ (mark ++ locationPattern)

-- ================================================================ names

theorem fits_namePattern {text : List Char} :
    namePattern.Fits text ↔ isName text = true := fits_isNameOf

/-- What opens a name can go on in one. -/
theorem continuesName_of_opensName {c : Char} (h : opensName c = true) :
    continuesName c = true := by
  simp only [opensName, Bool.or_eq_true, decide_eq_true_eq] at h
  rcases h with h | rfl
  · simp only [continuesName, isWord_of_isAlpha h, Bool.true_or]
  · decide

/-- A character outside the class does not occur in a name. -/
theorem not_mem_of_isName {name : List Char} {separator : Char}
    (h : isName name = true) (hseparator : continuesName separator = false) :
    separator ∉ name :=
  not_mem_of_isNameOf (fun _ => continuesName_of_opensName) h hseparator

theorem breaksLine_eq_false_iff {text : List Char} :
    breaksLine text = false ↔ '\n' ∉ text := by
  simp [breaksLine]

/-- Names joined by dots and a message are taken for a thrown name when
there are enough of them. -/
theorem isThrown_append {names : List (List Char)} {simple behind : List Char}
    (hnames : ∀ name ∈ names, isName name = true) (hsimple : isName simple = true)
    (hbehind : message.Fits behind) (count : Nat) :
    isThrown count (ended '.' names ++ simple ++ behind)
      = decide (count ≤ names.length + 1) := by
  have hcolon : ∀ name, isName name = true → ':' ∉ name := fun name h =>
    not_mem_of_isName h (by decide)
  have hdot : ∀ name, isName name = true → '.' ∉ name := fun name h =>
    not_mem_of_isName h (by decide)
  have hrun : ∀ c ∈ ended '.' names ++ simple, decide (c ≠ ':') = true := by
    intro c hc
    refine decide_eq_true ?_
    rintro rfl
    rcases List.mem_append.1 hc with hc | hc
    · rcases eq_or_exists_of_mem_ended hc with heq | ⟨name, hname, hc⟩
      · exact absurd heq (by decide)
      · exact hcolon name (hnames name hname) hc
    · exact hcolon simple hsimple hc
  rw [fits_message] at hbehind
  have hstop : ∀ c ∈ behind.head?, decide (c ≠ ':') = false := by
    rcases hbehind with rfl | ⟨rest, rfl, -⟩ <;> simp
  have hline : '\n' ∉ behind := by
    rcases hbehind with rfl | ⟨rest, rfl, hrest⟩
    · exact List.not_mem_nil
    · simpa using hrest
  have hall : (names ++ [simple]).all isName = true := by
    rw [List.all_append, List.all_eq_true.2 hnames]
    simp [hsimple]
  unfold isThrown
  rw [takeWhile_append_of_boundary hrun hstop, dropWhile_append_of_boundary hrun hstop,
    pieces_ended_append (fun name hname => hdot name (hnames name hname))
      (hdot simple hsimple), breaksLine_eq_false_iff.2 hline]
  dsimp only
  rw [hall, List.length_append]
  simp

/-- What is taken for a thrown name is names joined by dots and a
message. -/
theorem isThrown_iff {count : Nat} {text : List Char} :
    isThrown count text = true
      ↔ ∃ names simple behind, text = ended '.' names ++ simple ++ behind
          ∧ count ≤ names.length + 1 ∧ (∀ name ∈ names, isName name = true)
          ∧ isName simple = true ∧ message.Fits behind := by
  constructor
  · simp only [isThrown, Bool.and_eq_true, decide_eq_true_eq, List.all_eq_true,
      Bool.not_eq_true', breaksLine_eq_false_iff, fits_message]
    rintro ⟨⟨hcount, hnames⟩, hline⟩
    obtain ⟨names, simple, hpieces⟩ :=
      exists_eq_concat_pieces '.' (text.takeWhile (· ≠ ':'))
    have hjoined := ended_append_of_pieces hpieces
    rw [hpieces] at hcount hnames
    refine ⟨names, simple, text.dropWhile (· ≠ ':'), ?_, by simpa using hcount,
      fun name hname => hnames name (List.mem_append_left _ hname),
      hnames simple (List.mem_append_right _ (List.mem_singleton_self _)), ?_⟩
    · rw [hjoined, List.takeWhile_append_dropWhile]
    · cases hbehind : text.dropWhile (· ≠ ':') with
      | nil => exact .inl rfl
      | cons c rest =>
          have hc : c = ':' := by simpa using head_of_dropWhile_eq_cons hbehind
          rw [hbehind] at hline
          exact .inr ⟨rest, by rw [hc], fun hmem => hline (List.mem_cons_of_mem c hmem)⟩
  · rintro ⟨names, simple, behind, rfl, hcount, hnames, hsimple, hbehind⟩
    rw [isThrown_append hnames hsimple hbehind]
    exact decide_eq_true hcount

-- ================================================== headers and markers

/-- A thrown name with enough names in front of it. -/
theorem fits_thrown {qualifier : Pattern} {count : Nat}
    (hqualifier : ∀ text, qualifier.Fits text
      ↔ ∃ names : List (List Char), count ≤ names.length + 1 ∧ text = ended '.' names
          ∧ ∀ name ∈ names, namePattern.Fits name) {text : List Char} :
    (qualifier ++ namePattern ++ message).Fits text ↔ isThrown count text = true := by
  simp only [fits_namePattern] at hqualifier
  rw [isThrown_iff]
  constructor
  · intro h
    obtain ⟨_, behind, rfl, h, hbehind⟩ := h
    obtain ⟨_, simple, rfl, hnames, hsimple⟩ := h
    obtain ⟨names, hcount, rfl, hall⟩ := (hqualifier _).1 hnames
    exact ⟨names, simple, behind, rfl, hcount, hall, fits_namePattern.1 hsimple, hbehind⟩
  · intro h
    obtain ⟨names, simple, behind, rfl, hcount, hnames, hsimple, hbehind⟩ := h
    exact (((hqualifier _).2 ⟨names, hcount, rfl, hnames⟩).append
      (fits_namePattern.2 hsimple)).append hbehind

/-- A thrown name that needs no namespace. -/
theorem fits_simple {text : List Char} :
    (many (namePattern ++ word ".") ++ namePattern ++ message).Fits text
      ↔ isThrown 1 text = true := by
  refine fits_thrown fun qualifiers => ?_
  rw [fits_many_ended (c := '.') rfl]
  simp

/-- A thrown name in a namespace. -/
theorem fits_qualified {text : List Char} :
    (oneOrMore (namePattern ++ word ".") ++ namePattern ++ message).Fits text
      ↔ isThrown 2 text = true := by
  refine fits_thrown fun qualifiers => ?_
  rw [fits_oneOrMore_ended (c := '.') rfl]
  refine exists_congr fun names => and_congr_left fun _ => ?_
  rw [← List.length_pos_iff]
  omega

/-- Behind either phrase a thrown name is asked for. -/
theorem isHeader_append {phrase : List Char}
    (hphrase : phrase = "Unhandled Exception: ".toList
      ∨ phrase = "Unhandled exception. ".toList) (thrown : List Char) :
    isHeader (phrase ++ thrown) = isThrown 1 thrown := by
  unfold isHeader
  rcases hphrase with rfl | rfl
  · rw [afterWord?_append]
  · have hother : afterWord? "Unhandled Exception: ".toList
        ("Unhandled exception. ".toList ++ thrown) = none := rfl
    rw [hother, afterWord?_append]

/-- The header pattern is what the test for headers accepts. -/
theorem fits_headerPattern {line : List Char} :
    headerPattern.Fits line ↔ isHeader line = true := by
  constructor
  · intro h
    obtain ⟨_, thrown, rfl, hphrase, hthrown⟩ := h
    rw [isHeader_append hphrase]
    exact fits_simple.1 hthrown
  · intro h
    unfold isHeader at h
    split at h
    next thrown hword =>
      exact ⟨_, thrown, eq_append_of_afterWord? hword, .left rfl, fits_simple.2 h⟩
    next =>
      split at h
      next thrown hword =>
        exact ⟨_, thrown, eq_append_of_afterWord? hword, .right rfl, fits_simple.2 h⟩
      next => cases h

/-- Behind the arrow of an inner exception a thrown name in a namespace is
asked for. -/
theorem isInnerHeader_append {indent : List Char} (hindent : ∀ c ∈ indent, isBlank c = true)
    (thrown : List Char) :
    isInnerHeader (indent ++ ("---> ".toList ++ thrown)) = isThrown 2 thrown := by
  have hword : dropBlanks (indent ++ ("---> ".toList ++ thrown)) = "---> ".toList ++ thrown :=
    dropWhile_append_of_boundary hindent (boundary_cons (by decide) _)
  rw [isInnerHeader, hword, afterWord?_append]

/-- The pattern of inner headers is what the test for them accepts. -/
theorem fits_innerHeaderPattern {line : List Char} :
    innerHeaderPattern.Fits line ↔ isInnerHeader line = true := by
  constructor
  · intro h
    obtain ⟨_, thrown, rfl, h, hthrown⟩ := h
    obtain ⟨indent, _, rfl, hindent, rfl⟩ := h
    rw [List.append_assoc, isInnerHeader_append (fits_many_one.1 hindent)]
    exact fits_qualified.1 hthrown
  · intro h
    unfold isInnerHeader at h
    split at h
    next thrown hword =>
      have hline := List.takeWhile_append_dropWhile (p := isBlank) (l := line)
      have htext : line.dropWhile isBlank = "---> ".toList ++ thrown :=
        eq_append_of_afterWord? hword
      rw [htext, ← List.append_assoc] at hline
      rw [← hline]
      exact ((fits_takeWhile isBlank line).append (fits_word _)).append
        (fits_qualified.2 h)
    next => cases h

/-- The phrases, taken apart like the pattern for them. -/
theorem endMarkers_eq :
    endMarkers =
      ["--- End of ".toList ++ "inner exception stack trace".toList ++ " ---".toList,
       "--- End of ".toList ++ ("stack trace from previous location".toList ++ [])
         ++ " ---".toList,
       "--- End of ".toList ++ ("stack trace from previous location".toList
         ++ " where exception was thrown".toList) ++ " ---".toList] := by
  decide +kernel

theorem fits_markerPattern {text : List Char} :
    markerPattern.Fits text ↔ text ∈ endMarkers := by
  rw [endMarkers_eq, List.mem_cons, List.mem_cons, List.mem_singleton]
  constructor
  · intro h
    obtain ⟨_, _, rfl, h, rfl⟩ := h
    obtain ⟨_, _, rfl, rfl, hphrase⟩ := h
    rcases hphrase with rfl | ⟨_, _, rfl, rfl, rfl | rfl⟩
    · exact .inl rfl
    · exact .inr (.inr rfl)
    · exact .inr (.inl rfl)
  · intro h
    rcases h with rfl | rfl | rfl
    · exact ((fits_word _).append (.left (fits_word _))).append (fits_word _)
    · exact ((fits_word _).append (.right ((fits_word _).append
        (.right (fits_word ""))))).append (fits_word _)
    · exact ((fits_word _).append (.right ((fits_word _).append
        (.left (fits_word _))))).append (fits_word _)

/-- The pattern of end markers is what the test for them accepts. -/
theorem fits_endMarkerPattern {line : List Char} :
    endMarkerPattern.Fits line ↔ isEndMarker line = true := by
  rw [isEndMarker, List.contains_iff_mem, ← fits_markerPattern]
  constructor
  · intro h
    obtain ⟨indent, _, rfl, hindent, h⟩ := h
    obtain ⟨phrase, closing, rfl, hphrase, hclosing⟩ := h
    -- every marker has a dash at either end
    have hends : ∀ phrase ∈ endMarkers, phrase.head? = some '-'
        ∧ phrase.getLast? = some '-' := by decide +kernel
    obtain ⟨hhead, hlast⟩ := hends phrase (fits_markerPattern.1 hphrase)
    have hne : phrase ≠ [] := by
      rintro rfl
      cases hhead
    have hdash : ∀ c ∈ some '-', isBlank c = false := by
      intro c hc
      rw [← Option.some.inj hc]
      decide
    rw [trim_append (fits_many_one.1 hindent) (fits_many_one.1 hclosing) hne
      (hhead ▸ hdash) (hlast ▸ hdash)]
    exact hphrase
  · intro h
    obtain ⟨indent, closing, hline, hindent, hclosing⟩ := exists_eq_append_trim line
    rw [hline]
    exact Fits.append (fits_many_one.2 hindent) (h.append (fits_many_one.2 hclosing))

end ConsoleLinks.CSharp
