/-
The law of ambiguity: of the nine shapes of lines, only the compiler
diagnostic can be taken for another one (`only_diagnostic_ambiguous`). So
the order in which the Java shapes are tried makes no difference, and a
line that both grammars recognize is a diagnostic to the .NET one.

# The proof

Twenty-eight pairs of shapes are settled by one function: `telltale` names
the only shape that a line can have, from the name it opens with, the
character behind that name and, for `at` lines, the last character that is
no white space. Every pattern but the diagnostic's fits only lines that
tell of its own shape (`telltale_of_fits`).

A diagnostic tells of nothing: its file name may be any text, so
`java.io.IOException: x(1,2): error CS1: y` is a header of a Java trace as
well.
-/
import ConsoleLinks.Line.Ecosystem
import ConsoleLinks.Proofs.Line.Shapes

namespace ConsoleLinks

open Text

namespace Shape

-- ==================================================== how a line opens

/-- The run of name characters that a line opens with behind its
indentation, and all that follows it. -/
def opening (line : List Char) : List Char × List Char :=
  let text := dropBlanks line
  (text.takeWhile Java.continuesName, text.dropWhile Java.continuesName)

/-- A line opens with the name that a mark ends. -/
theorem opening_append {indent word rest : List Char} {c : Char}
    (hindent : ∀ d ∈ indent, isBlank d = true)
    (hword : ∀ d ∈ word, Java.continuesName d = true)
    (hmark : Java.continuesName c = false) (hvisible : word = [] → isBlank c = false) :
    opening (indent ++ (word ++ c :: rest)) = (word, c :: rest) := by
  have hstart : ∀ d ∈ (word ++ c :: rest).head?, isBlank d = false := by
    cases word with
    | nil => exact boundary_cons (hvisible rfl) rest
    | cons d word =>
        refine boundary_cons ?_ (word ++ c :: rest)
        cases hblank : isBlank d with
        | false => rfl
        | true =>
            have hname := hword d (List.mem_cons_self ..)
            rw [Java.continuesName_of_isBlank hblank] at hname
            cases hname
  rw [opening, dropBlanks, dropWhile_append_of_boundary hindent hstart,
    takeWhile_append_of_boundary hword (boundary_cons hmark rest),
    dropWhile_append_of_boundary hword (boundary_cons hmark rest)]

/-- Java headers open with a name; what ends it is a dot, unless the name
belongs to an introduction. -/
theorem opening_of_isHeader {line : List Char} (h : Java.isHeader line = true) :
    ∃ word c rest, opening line = (word, c :: rest) ∧ word ≠ []
      ∧ (c = '.' ∨ word ∈ Java.introducing) := by
  obtain ⟨parts, hform, -, rfl⟩ := Java.exists_of_isHeader h
  obtain ⟨word, c, rest, hbody, hword, hmark, hdot⟩ := Java.Header.body_eq_append hform
  have hne : word ≠ [] := by
    rintro rfl
    cases hword
  refine ⟨word, c, rest, ?_, hne, hdot⟩
  rw [Java.Header.text, hbody]
  exact opening_append hform.indent (Java.continuesName_of_mem_isName hword) hmark
    fun hnil => absurd hnil hne

/-- A line with an indented `at` and white space opens with it. -/
theorem opening_at {indent rest : List Char} {c : Char}
    (hindent : ∀ d ∈ indent, isBlank d = true) (hc : isBlank c = true) :
    opening (indent ++ ("at".toList ++ c :: rest)) = ("at".toList, c :: rest) :=
  opening_append hindent (List.all_eq_true.1 rfl) (Java.continuesName_of_isBlank hc)
    fun hnil => absurd hnil (by decide)

/-- So do `at` lines. -/
theorem opening_of_ofLine? {line : List Char} {l : Java.AtLine}
    (h : Java.AtLine.ofLine? line = some l) :
    ∃ c rest, opening line = ("at".toList, c :: rest) ∧ isBlank c = true := by
  obtain ⟨rfl, indent, space, owner, hopening, hindent, hne, hspace⟩ :=
    Java.AtLine.of_ofLine? h
  obtain ⟨c, space, rfl⟩ := List.exists_cons_of_ne_nil hne
  have hc := hspace c (List.mem_cons_self ..)
  refine ⟨c, space ++ (owner ++ (l.symbol ++ '(' :: (l.source ++ ')' :: l.packaging))),
    ?_, hc⟩
  rw [← opening_at hindent hc, Java.AtLine.text, hopening]
  simp

/-- A line may open with a mark and no name. -/
theorem opening_mark {indent rest : List Char} {c : Char}
    (hindent : Pattern.blanks.Fits indent) (hmark : Java.continuesName c = false)
    (hvisible : isBlank c = false) :
    opening (indent ++ c :: rest) = ([], c :: rest) :=
  opening_append (Pattern.fits_many_one.1 hindent)
    (fun _ hd => absurd hd List.not_mem_nil) hmark fun _ => hvisible

/-- Elisions open with a dot. -/
theorem opening_of_isElision {line : List Char} (h : Java.isElision line = true) :
    ∃ rest, opening line = ([], '.' :: rest) := by
  obtain ⟨indent, number, phrase, closing, rfl, hindent, -⟩ := Java.of_isElision h
  exact ⟨".. ".toList ++ (number ++ (' ' :: phrase ++ closing)),
    opening_mark hindent (by decide) (by decide)⟩

-- ========================================================= the telltale

/-- The shape that an `at` line can only have. A frame that ends in a
digit shows a source file. -/
def atTelltale (line : List Char) : Shape :=
  if (dropBlanksEnd line).getLast?.any isDigit then csharpFrame
  else
    match (Java.AtLine.ofLine? line).bind (Java.Source.ofText? ·.source) with
    | some (.position _ _) => javaFrame
    | _ => javaSourcelessFrame

/-- The shape that a line can only have, diagnostics left out. -/
def telltale (line : List Char) : Shape :=
  let (word, rest) := opening line
  if word = [] then
    if startsWith "---> ".toList rest then csharpInnerHeader
    else if startsWith "-".toList rest then csharpEndMarker
    else javaElision
  else if word = "at".toList ∧ rest.head?.any isBlank then atTelltale line
  else if word = "Unhandled".toList ∧ rest.head?.any isBlank then csharpHeader
  else javaHeader

theorem telltale_of_isHeader {line : List Char} (h : Java.isHeader line = true) :
    telltale line = javaHeader := by
  obtain ⟨word, c, rest, hopening, hne, hdot⟩ := opening_of_isHeader h
  have hother : ∀ other ∉ Java.introducing, ¬ (word = other ∧ isBlank c = true) := by
    rintro other hmem ⟨rfl, hblank⟩
    rcases hdot with rfl | hword
    · revert hblank
      decide
    · exact hmem hword
  unfold telltale
  rw [hopening]
  simp only [hne, if_false, List.head?_cons, Option.any_some,
    hother "at".toList (by decide), hother "Unhandled".toList (by decide)]

theorem telltale_of_isElision {line : List Char} (h : Java.isElision line = true) :
    telltale line = javaElision := by
  obtain ⟨rest, hopening⟩ := opening_of_isElision h
  unfold telltale
  rw [hopening]
  rfl

/-- The last visible character of an `at` line closes a parenthesis or a
bracket. -/
theorem getLast?_of_ofLine? {line : List Char} {l : Java.AtLine}
    (h : Java.AtLine.ofLine? line = some l) :
    (dropBlanksEnd line).getLast?.any isDigit = false := by
  obtain ⟨rfl, hform⟩ := Java.AtLine.ofLine?_eq_some_iff.1 h
  obtain ⟨front, c, closing, htext, hc, hclosing⟩ : ∃ front c closing,
      l.text = front ++ [c] ++ closing ∧ (c = ')' ∨ c = ']')
        ∧ ∀ d ∈ closing, isBlank d = true := by
    rcases Java.isPackaging_iff.1 hform.packaging with hblank | ⟨space, tilde, inside,
      closing, hpackaging, -, -, -, -, hclosing⟩
    · exact ⟨l.opening ++ l.symbol ++ ['('] ++ l.source, ')', l.packaging, rfl, .inl rfl,
        hblank⟩
    · refine ⟨l.opening ++ l.symbol ++ ['('] ++ l.source ++ [')'] ++ space ++ tilde
        ++ ['['] ++ inside, ']', closing, ?_, .inr rfl, hclosing⟩
      rw [Java.AtLine.text, hpackaging]
      simp
  rw [htext]
  rcases hc with rfl | rfl
  · rw [getLast?_dropBlanksEnd (by decide) hclosing]
    decide
  · rw [getLast?_dropBlanksEnd (by decide) hclosing]
    decide

/-- An `at` line tells of what its source says. -/
theorem telltale_of_ofLine? {line : List Char} {l : Java.AtLine}
    (h : Java.AtLine.ofLine? line = some l) :
    telltale line =
      match Java.Source.ofText? l.source with
      | some (.position _ _) => javaFrame
      | _ => javaSourcelessFrame := by
  obtain ⟨c, rest, hopening, hblank⟩ := opening_of_ofLine? h
  unfold telltale
  rw [hopening]
  simp only [List.head?_cons, Option.any_some, hblank, and_self, if_true, atTelltale,
    getLast?_of_ofLine? h, Bool.false_eq_true, if_false, h, Option.bind_some]
  rfl

/-- An exception that nobody caught opens with a word that no Java header
opens with. -/
theorem telltale_unhandled (rest : List Char) :
    telltale ("Unhandled".toList ++ ' ' :: rest) = csharpHeader := by
  have hopening : opening ([] ++ ("Unhandled".toList ++ ' ' :: rest))
      = ("Unhandled".toList, ' ' :: rest) :=
    opening_append (fun _ hd => absurd hd List.not_mem_nil)
      (List.all_eq_true.1 (by decide)) (by decide) fun hnil => absurd hnil (by decide)
  rw [List.nil_append] at hopening
  unfold telltale
  rw [hopening]
  rfl

theorem telltale_of_csharpHeader {line : List Char}
    (h : CSharp.headerPattern.Fits line) : telltale line = csharpHeader := by
  obtain ⟨_, thrown, rfl, rfl | rfl, -⟩ := h
  · exact telltale_unhandled ("Exception: ".toList ++ thrown)
  · exact telltale_unhandled ("exception. ".toList ++ thrown)

/-- What introduces an inner exception opens with an arrow. -/
theorem telltale_arrow {indent : List Char} (hindent : Pattern.blanks.Fits indent)
    (rest : List Char) : telltale (indent ++ ("---> ".toList ++ rest)) = csharpInnerHeader := by
  have hopening : opening (indent ++ ("---> ".toList ++ rest)) = ([], "---> ".toList ++ rest) :=
    opening_mark hindent (by decide) (by decide)
  unfold telltale
  rw [hopening]
  rfl

theorem telltale_of_innerHeader {line : List Char}
    (h : CSharp.innerHeaderPattern.Fits line) : telltale line = csharpInnerHeader := by
  obtain ⟨_, thrown, rfl, h, -⟩ := h
  obtain ⟨indent, _, rfl, hindent, rfl⟩ := h
  rw [List.append_assoc]
  exact telltale_arrow hindent thrown

theorem telltale_of_endMarker {line : List Char}
    (h : CSharp.endMarkerPattern.Fits line) : telltale line = csharpEndMarker := by
  obtain ⟨indent, _, rfl, hindent, h⟩ := h
  obtain ⟨_, closing, rfl, h, -⟩ := h
  obtain ⟨_, dashes, rfl, h, -⟩ := h
  obtain ⟨_, phrase, rfl, rfl, -⟩ := h
  have hopening : opening (indent ++ ("--- End of ".toList ++ (phrase ++ (dashes
      ++ closing)))) = ([], "--- End of ".toList ++ (phrase ++ (dashes ++ closing))) :=
    opening_mark hindent (by decide) (by decide)
  unfold telltale
  simp only [List.append_assoc]
  rw [hopening]
  rfl

theorem telltale_of_csharpFrame {line : List Char}
    (h : CSharp.framePattern.Fits line) : telltale line = csharpFrame := by
  obtain ⟨_, closing, rfl, h, hclosing⟩ := h
  obtain ⟨_, number, rfl, h, hnumber⟩ := h
  obtain ⟨_, mark, rfl, h, -⟩ := h
  obtain ⟨_, body, rfl, h, -⟩ := h
  obtain ⟨_, space, rfl, h, hspace⟩ := h
  obtain ⟨indent, _, rfl, hindent, rfl⟩ := h
  obtain ⟨hne, hspace⟩ := Pattern.fits_oneOrMore_one.1 hspace
  obtain ⟨hne', hdigits⟩ := Pattern.fits_oneOrMore_one.1 hnumber
  obtain ⟨c, space, rfl⟩ := List.exists_cons_of_ne_nil hne
  have hc := hspace c (List.mem_cons_self ..)
  rcases List.eq_nil_or_concat number with hnil | ⟨front, last, hnumber⟩
  · exact absurd hnil hne'
  rw [List.concat_eq_append] at hnumber
  subst hnumber
  have hlast := hdigits last (List.mem_append_right _ (List.mem_singleton_self _))
  have hopening : opening (indent ++ "at".toList ++ c :: space ++ body ++ mark
      ++ (front ++ [last]) ++ closing) = ("at".toList,
        c :: (space ++ (body ++ (mark ++ (front ++ [last] ++ closing))))) := by
    rw [← opening_at (Pattern.fits_many_one.1 hindent) hc]
    simp only [List.append_assoc, List.cons_append]
  have hend := getLast?_dropBlanksEnd (isBlank_of_isDigit hlast)
    (Pattern.fits_many_one.1 hclosing)
    (indent ++ "at".toList ++ c :: space ++ body ++ mark ++ front)
  rw [List.append_assoc (_ ++ mark)] at hend
  unfold telltale atTelltale
  rw [hopening, hend]
  simp [hc, hlast]

-- ============================================================== the law

/-- A line that fits a pattern tells of its shape. -/
theorem telltale_of_fits {line : List Char} {s : Shape} (hs : s ≠ csharpDiagnostic)
    (h : s.pattern.Fits line) : telltale line = s := by
  cases s with
  | javaHeader => exact telltale_of_isHeader (Java.fits_headerPattern.1 h)
  | javaFrame =>
      obtain ⟨l, file, number, hl, hsource⟩ := Java.fits_framePattern.1 h
      rw [telltale_of_ofLine? hl, hsource]
  | javaSourcelessFrame =>
      obtain ⟨l, hl, hsource⟩ := Java.fits_sourcelessFramePattern.1 h
      rw [telltale_of_ofLine? hl, hsource]
  | javaElision => exact telltale_of_isElision (Java.fits_elisionPattern.1 h)
  | csharpHeader => exact telltale_of_csharpHeader h
  | csharpInnerHeader => exact telltale_of_innerHeader h
  | csharpEndMarker => exact telltale_of_endMarker h
  | csharpFrame => exact telltale_of_csharpFrame h
  | csharpDiagnostic => exact absurd rfl hs

/-- No line has two shapes, diagnostics left out. -/
theorem eq_of_fits {line : List Char} {s t : Shape} (hs : s.pattern.Fits line)
    (ht : t.pattern.Fits line) (hs' : s ≠ csharpDiagnostic) (ht' : t ≠ csharpDiagnostic) :
    s = t := by
  rw [← telltale_of_fits hs' hs, ← telltale_of_fits ht' ht]

-- ================================================= verdicts of grammars

/-- The only shape in a list to accept a line decides its verdict. -/
theorem firstVerdict_eq {line : List Char} {order : List Shape} {s : Shape}
    {v : Verdict} (hs : s ∈ order) (hv : read? line s = some v)
    (honly : ∀ t ∈ order, (read? line t).isSome = true → t = s) :
    firstVerdict line order = v := by
  have hfound : (order.findSome? (read? line)).isSome = true :=
    List.findSome?_isSome_iff.2 ⟨s, hs, by rw [hv]; rfl⟩
  obtain ⟨w, hw⟩ := Option.isSome_iff_exists.1 hfound
  obtain ⟨t, ht, hread⟩ := List.exists_of_findSome?_eq_some hw
  have heq := honly t ht (by rw [hread]; rfl)
  rw [heq, hv] at hread
  rw [firstVerdict, hw, ← hread]
  rfl

/-- Where no shape of a list accepts a line, it is unrelated. -/
theorem firstVerdict_eq_unrelated {line : List Char} {order : List Shape}
    (hnone : ∀ t ∈ order, read? line t = none) :
    firstVerdict line order = .unrelated := by
  rw [firstVerdict, List.findSome?_eq_none_iff.2 hnone]
  rfl

/-- The order of shapes makes no difference where no line has two of
them. -/
theorem firstVerdict_perm {line : List Char} {order order' : List Shape}
    (hsame : ∀ s, s ∈ order ↔ s ∈ order') (hdiagnostic : csharpDiagnostic ∉ order) :
    firstVerdict line order = firstVerdict line order' := by
  have hne : ∀ s ∈ order, s ≠ csharpDiagnostic := by
    rintro s hs rfl
    exact hdiagnostic hs
  by_cases hsome : ∃ s ∈ order, (read? line s).isSome = true
  · obtain ⟨s, hs, hread⟩ := hsome
    obtain ⟨v, hv⟩ := Option.isSome_iff_exists.1 hread
    have honly : ∀ t ∈ order, (read? line t).isSome = true → t = s :=
      fun t ht hreads => eq_of_fits (isSome_read?_iff.1 hreads) (isSome_read?_iff.1 hread)
        (hne t ht) (hne s hs)
    rw [firstVerdict_eq hs hv honly, firstVerdict_eq ((hsame s).1 hs) hv
      fun t ht => honly t ((hsame t).2 ht)]
  · have hnone : ∀ s ∈ order, read? line s = none := by
      intro s hs
      refine Option.not_isSome_iff_eq_none.1 fun hread => hsome ⟨s, hs, hread⟩
    rw [firstVerdict_eq_unrelated hnone, firstVerdict_eq_unrelated
      fun s hs => hnone s ((hsame s).2 hs)]

/-- An `at` line is no elision and no header. -/
theorem not_accepted_of_ofLine? {line : List Char} {l : Java.AtLine}
    (h : Java.AtLine.ofLine? line = some l) :
    Java.isElision line = false ∧ Java.isHeader line = false := by
  have htells := telltale_of_ofLine? h
  refine ⟨Bool.eq_false_iff.2 fun helision => ?_, Bool.eq_false_iff.2 fun hheader => ?_⟩
  · rw [telltale_of_isElision helision] at htells
    split at htells <;> cases htells
  · rw [telltale_of_isHeader hheader] at htells
    split at htells <;> cases htells

/-- A grammar's verdict is that of its first shape to accept the line. -/
theorem verdict_eq_firstVerdict (e : Ecosystem) (line : String) :
    e.verdict line = firstVerdict line.toList (inOrder e) := by
  cases e with
  | java =>
      simp only [Ecosystem.verdict, Java.verdict, firstVerdict, inOrder,
        List.findSome?_cons, List.findSome?_nil, read?]
      cases hl : Java.AtLine.ofLine? line.toList with
      | none =>
          simp only [Option.bind_none]
          cases Java.isElision line.toList <;> cases Java.isHeader line.toList <;> rfl
      | some l =>
          obtain ⟨helision, hheader⟩ := not_accepted_of_ofLine? hl
          simp only [Option.bind_some, helision, hheader]
          cases hsource : Java.Source.ofText? l.source with
          | none => rfl
          | some source =>
              cases source with
              | noPosition => rfl
              | position file number => rfl
  | csharp =>
      simp only [Ecosystem.verdict, CSharp.verdict, firstVerdict, inOrder,
        List.findSome?_cons, List.findSome?_nil, read?]
      cases CSharp.Frame.ofLine? line.toList with
      | some f => rfl
      | none =>
          cases CSharp.Diagnostic.ofLine? line.toList with
          | some d => rfl
          | none =>
              cases CSharp.isHeader line.toList <;>
                cases CSharp.isInnerHeader line.toList <;>
                  cases CSharp.isEndMarker line.toList <;> rfl

/-- A line that a grammar recognizes has one of its shapes. -/
theorem exists_fits_of_detect {e : Ecosystem} {line : String} {m : LineMatch}
    (h : e.detect line = some m) :
    ∃ s : Shape, s.ecosystem = e ∧ s.pattern.Fits line.toList
      ∧ (s = csharpDiagnostic → m.kind = .compilerDiagnostic) := by
  have hshapes : ∀ e, ∀ s ∈ inOrder e, s.ecosystem = e := by
    intro e
    cases e <;> decide
  rw [Ecosystem.detect, verdict_eq_firstVerdict, firstVerdict] at h
  cases hfound : (inOrder e).findSome? (read? line.toList) with
  | none =>
      rw [hfound] at h
      cases h
  | some v =>
      rw [hfound, Option.getD_some] at h
      obtain ⟨s, hs, hread⟩ := List.exists_of_findSome?_eq_some hfound
      refine ⟨s, hshapes e s hs, isSome_read?_iff.1 (by rw [hread]; rfl), ?_⟩
      rintro rfl
      obtain ⟨d, -, hd⟩ := Option.map_eq_some_iff.1 hread
      rw [← hd, diagnosticVerdict] at h
      split at h
      next =>
        injection h with h
        rw [← h]
        rfl
      next => cases h

/-- A line that both grammars recognize is a diagnostic to the second. -/
theorem kind_of_detect_of_detect {line : String} {mj mc : LineMatch}
    (hj : Ecosystem.java.detect line = some mj)
    (hc : Ecosystem.csharp.detect line = some mc) : mc.kind = .compilerDiagnostic := by
  obtain ⟨s, hjava, hs, -⟩ := exists_fits_of_detect hj
  obtain ⟨t, hcsharp, ht, hkind⟩ := exists_fits_of_detect hc
  refine hkind (Decidable.byContradiction fun hne => ?_)
  have hs' : s ≠ csharpDiagnostic := by
    rintro rfl
    cases hjava
  rw [eq_of_fits hs ht hs' hne, hcsharp] at hjava
  cases hjava

/-- The law of ambiguity. Where two patterns fit a line, they are the same
or one of them is the diagnostic's; each reader accepts what its pattern
fits; a grammar is its shapes in order; a line that both grammars
recognize is a diagnostic to the .NET one; and the Java shapes may be
tried in any order. -/
theorem ambiguous_only_with_diagnostic (line : String) :
    (∀ s t : Shape, s.pattern.Fits line.toList → t.pattern.Fits line.toList →
        s = t ∨ s = csharpDiagnostic ∨ t = csharpDiagnostic)
      ∧ (∀ s : Shape, (read? line.toList s).isSome = true ↔ s.pattern.Fits line.toList)
      ∧ (∀ e : Ecosystem,
          (firstVerdict line.toList (inOrder e)).match? = e.detect line)
      ∧ (∀ mj mc, Ecosystem.java.detect line = some mj →
          Ecosystem.csharp.detect line = some mc → mc.kind = .compilerDiagnostic)
      ∧ ∀ order : List Shape, order.Perm (inOrder .java) →
          (firstVerdict line.toList order).match? = Ecosystem.java.detect line := by
  have hgrammar (e : Ecosystem) :
      (firstVerdict line.toList (inOrder e)).match? = e.detect line := by
    rw [Ecosystem.detect, verdict_eq_firstVerdict]
  refine ⟨fun s t hs ht => ?_, fun s => isSome_read?_iff, hgrammar,
    fun mj mc => kind_of_detect_of_detect, fun order hperm => ?_⟩
  · by_cases hs' : s = csharpDiagnostic
    · exact .inr (.inl hs')
    · by_cases ht' : t = csharpDiagnostic
      · exact .inr (.inr ht')
      · exact .inl (eq_of_fits hs ht hs' ht')
  · have hdiagnostic : csharpDiagnostic ∉ order := fun hmem =>
      absurd (hperm.mem_iff.1 hmem) (by decide)
    rw [firstVerdict_perm (fun s => hperm.mem_iff) hdiagnostic, hgrammar]

/-- The first line of a Java trace whose message reads like a diagnostic:
both grammars recognize it. -/
theorem ambiguous_messageLikeDiagnostic :
    ∃ (line : String) (mj mc : LineMatch),
      javaHeader.pattern.Fits line.toList ∧ csharpDiagnostic.pattern.Fits line.toList
        ∧ Ecosystem.java.detect line = some mj ∧ Ecosystem.csharp.detect line = some mc
        ∧ mc.kind = .compilerDiagnostic
        ∧ (firstVerdict line.toList
            [javaHeader, javaSourcelessFrame, javaElision, javaFrame]).match?
              = some mj := by
  have hj : Ecosystem.java.detect "java.io.IOException: x(1,2): error CS1: y"
      = some .traceHeader := by decide +kernel
  have hc : (Ecosystem.csharp.detect
      "java.io.IOException: x(1,2): error CS1: y").isSome = true := by decide +kernel
  obtain ⟨mc, hc⟩ := Option.isSome_iff_exists.1 hc
  have hheader : javaHeader.pattern.Fits
      "java.io.IOException: x(1,2): error CS1: y".toList :=
    isSome_read?_iff.1 (by decide +kernel)
  have hdiagnostic : csharpDiagnostic.pattern.Fits
      "java.io.IOException: x(1,2): error CS1: y".toList :=
    isSome_read?_iff.1 (by decide +kernel)
  obtain ⟨-, -, -, hkind, horder⟩ :=
    ambiguous_only_with_diagnostic "java.io.IOException: x(1,2): error CS1: y"
  refine ⟨_, .traceHeader, mc, hheader, hdiagnostic, hj, hc, hkind _ _ hj hc, ?_⟩
  rw [horder _ (by decide), hj]

end Shape

end ConsoleLinks
