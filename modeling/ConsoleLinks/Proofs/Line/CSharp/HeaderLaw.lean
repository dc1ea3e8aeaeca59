/-
The law of headers: the two phrases for an exception that nobody caught,
and the arrow in front of an inner one.

# The form

A header is an introduction, names of namespaces with dots behind them,
the simple name of a type, and nothing more or a colon and a message on
the same line (`Header`, `Header.WellFormed`).

# The law

Where the diagnostic pattern does not fit, a line of this form opens a
trace, with one exception: the pattern of the arrow asks for a namespace
that the pattern of the phrases does without, so `---> Foo: bar` is not
recognized at all, while `Unhandled Exception: Foo: bar` is. Every line
that opens a trace has the form (`detect_exceptionHeader`).

# The proof

An introduction tells the shape that the line can only have
(`Header.telltale_text`), so one reader decides, and it counts names
(`isThrown_append`).
-/
import ConsoleLinks.Proofs.Line.Ambiguity

namespace ConsoleLinks.CSharp

open Text Text.Pattern

-- ============================================================ the form

/-- What stands in front of the type. -/
inductive Introduction where
  /-- The phrase of .NET Framework and Mono. -/
  | framework
  /-- The phrase of .NET Core. -/
  | core
  /-- The arrow of an inner exception, behind white space. -/
  | inner (indent : List Char)

namespace Introduction

def text : Introduction → List Char
  | framework => "Unhandled Exception: ".toList
  | core => "Unhandled exception. ".toList
  | inner indent => indent ++ "---> ".toList

theorem text_framework : framework.text = "Unhandled Exception: ".toList := rfl

theorem text_core : core.text = "Unhandled exception. ".toList := rfl

theorem text_inner (indent : List Char) : (inner indent).text = indent ++ "---> ".toList :=
  rfl

def WellFormed : Introduction → Prop
  | framework | core => True
  | inner indent => ∀ c ∈ indent, isBlank c = true

def isInner : Introduction → Bool
  | framework | core => false
  | inner _ => true

/-- The shape of the lines that it introduces. -/
def shape : Introduction → Shape
  | framework | core => .csharpHeader
  | inner _ => .csharpInnerHeader

end Introduction

/-- The parts of a header. -/
structure Header where
  introduction : Introduction
  /-- The names in front of the simple one. -/
  namespaces : List (List Char)
  /-- The simple name of the type. -/
  simple : List Char
  /-- What follows the name, its colon included. -/
  message : List Char

namespace Header

/-- What follows the introduction. -/
def thrown (h : Header) : List Char := ended '.' h.namespaces ++ h.simple ++ h.message

/-- The line the parts stand for. -/
def text (h : Header) : List Char := h.introduction.text ++ h.thrown

/-- What each part has to be. -/
structure WellFormed (h : Header) : Prop where
  introduction : h.introduction.WellFormed
  namespaces : ∀ name ∈ h.namespaces, isName name = true
  simple : isName h.simple = true
  message : h.message = [] ∨ ∃ rest, h.message = ':' :: rest ∧ '\n' ∉ rest

/-- An inner exception whose type shows no namespace. -/
def IsBareInner (h : Header) : Prop := h.introduction.isInner = true ∧ h.namespaces = []

instance (h : Header) : Decidable h.IsBareInner :=
  inferInstanceAs (Decidable (_ ∧ _))

-- ======================================================== put together

variable {h : Header}

/-- The introduction tells of its shape. -/
theorem telltale_text (hform : h.WellFormed) :
    Shape.telltale h.text = h.introduction.shape := by
  have hintroduction := hform.introduction
  rw [text]
  cases hkind : h.introduction with
  | framework =>
      rw [Introduction.text_framework]
      exact Shape.telltale_unhandled ("Exception: ".toList ++ h.thrown)
  | core =>
      rw [Introduction.text_core]
      exact Shape.telltale_unhandled ("exception. ".toList ++ h.thrown)
  | inner indent =>
      rw [hkind] at hintroduction
      rw [Introduction.text_inner, List.append_assoc]
      exact Shape.telltale_arrow (fits_many_one.2 hintroduction) h.thrown

/-- What is asked of a thrown name is the number of its parts. -/
theorem isThrown_thrown (hform : h.WellFormed) (count : Nat) :
    isThrown count h.thrown = decide (count ≤ h.namespaces.length + 1) :=
  isThrown_append hform.namespaces hform.simple (fits_message.2 hform.message) count

/-- The reader of its shape accepts a header, unless that is a bare inner
one. -/
theorem read?_text (hform : h.WellFormed) :
    Shape.read? h.text h.introduction.shape
      = if h.IsBareInner then none else some (.recognized .traceHeader) := by
  have hintroduction := hform.introduction
  rw [text]
  cases hkind : h.introduction with
  | framework =>
      have hheader : isHeader (Introduction.framework.text ++ h.thrown) = true := by
        rw [Introduction.text_framework, isHeader_append (.inl rfl), isThrown_thrown hform]
        exact decide_eq_true (Nat.le_add_left 1 _)
      rw [Introduction.shape, Shape.read?, hheader]
      simp [IsBareInner, hkind, Introduction.isInner]
  | core =>
      have hheader : isHeader (Introduction.core.text ++ h.thrown) = true := by
        rw [Introduction.text_core, isHeader_append (.inr rfl), isThrown_thrown hform]
        exact decide_eq_true (Nat.le_add_left 1 _)
      rw [Introduction.shape, Shape.read?, hheader]
      simp [IsBareInner, hkind, Introduction.isInner]
  | inner indent =>
      rw [hkind] at hintroduction
      have hheader : isInnerHeader ((Introduction.inner indent).text ++ h.thrown)
          = decide (2 ≤ h.namespaces.length + 1) := by
        rw [Introduction.text_inner, List.append_assoc, isInnerHeader_append hintroduction,
          isThrown_thrown hform]
      have hcount : 2 ≤ h.namespaces.length + 1 ↔ h.namespaces ≠ [] := by
        rw [← List.length_pos_iff]
        omega
      rw [Introduction.shape, Shape.read?, hheader]
      simp [IsBareInner, hkind, hcount, Introduction.isInner]

/-- What the grammar makes of a header that is no diagnostic. -/
theorem detect_text {line : String} (hform : h.WellFormed) (htext : line.toList = h.text)
    (hdiagnostic : ¬ diagnosticPattern.Fits line.toList) :
    Ecosystem.csharp.detect line = if h.IsBareInner then none else some .traceHeader := by
  have honly : ∀ t ∈ Shape.inOrder .csharp,
      (Shape.read? line.toList t).isSome = true → t = h.introduction.shape := by
    intro t _ hread
    have hfits := Shape.isSome_read?_iff.1 hread
    have hne : t ≠ .csharpDiagnostic := by
      rintro rfl
      exact hdiagnostic hfits
    rw [← telltale_text hform, ← htext, Shape.telltale_of_fits hne hfits]
  have hread := read?_text hform
  rw [← htext] at hread
  rw [Ecosystem.detect, Shape.verdict_eq_firstVerdict]
  by_cases hbare : h.IsBareInner
  · rw [if_pos hbare] at hread ⊢
    have hnone : ∀ t ∈ Shape.inOrder .csharp, Shape.read? line.toList t = none := by
      intro t ht
      refine Option.not_isSome_iff_eq_none.1 fun hsome => ?_
      rw [honly t ht hsome, hread] at hsome
      cases hsome
    rw [Shape.firstVerdict_eq_unrelated hnone]
    rfl
  · rw [if_neg hbare] at hread ⊢
    have hmem : h.introduction.shape ∈ Shape.inOrder .csharp := by
      cases h.introduction with
      | framework => decide
      | core => decide
      | inner indent => exact (by decide : Shape.csharpInnerHeader ∈ Shape.inOrder .csharp)
    rw [Shape.firstVerdict_eq hmem hread honly]
    rfl

end Header

-- ========================================================= taken apart

/-- What the first lines of a trace are taken for. -/
theorem of_verdict_traceHeader {line : List Char}
    (h : verdict line = .recognized .traceHeader) :
    Diagnostic.ofLine? line = none ∧ (isHeader line = true ∨ isInnerHeader line = true) := by
  unfold verdict at h
  split at h
  next =>
    split at h
    next => cases h
    next => cases h
  next =>
    split at h
    next =>
      split at h
      next => cases h
      next => cases h
    next hnone =>
      split at h
      next hheader => exact ⟨hnone, by simpa using hheader⟩
      next =>
        split at h
        next => cases h
        next => cases h

/-- Behind a phrase stands the rest of a header. -/
theorem exists_of_isHeader {line : List Char} (h : isHeader line = true) :
    ∃ form : Header, form.WellFormed ∧ ¬ form.IsBareInner ∧ line = form.text := by
  obtain ⟨phrase, thrown, rfl, hphrase, hthrown⟩ := fits_headerPattern.2 h
  obtain ⟨namespaces, simple, message, rfl, -, hnamespaces, hsimple, hmessage⟩ :=
    isThrown_iff.1 (fits_simple.1 hthrown)
  have hmessage := fits_message.1 hmessage
  rcases hphrase with rfl | rfl
  · refine ⟨⟨.framework, namespaces, simple, message⟩,
      ⟨trivial, hnamespaces, hsimple, hmessage⟩, ?_, rfl⟩
    rintro ⟨hinner, -⟩
    cases hinner
  · refine ⟨⟨.core, namespaces, simple, message⟩,
      ⟨trivial, hnamespaces, hsimple, hmessage⟩, ?_, rfl⟩
    rintro ⟨hinner, -⟩
    cases hinner

/-- Behind the arrow as well, with a namespace. -/
theorem exists_of_isInnerHeader {line : List Char} (h : isInnerHeader line = true) :
    ∃ form : Header, form.WellFormed ∧ ¬ form.IsBareInner ∧ line = form.text := by
  obtain ⟨_, thrown, rfl, hintroduction, hthrown⟩ := fits_innerHeaderPattern.2 h
  obtain ⟨indent, _, rfl, hindent, rfl⟩ := hintroduction
  obtain ⟨namespaces, simple, message, rfl, hcount, hnamespaces, hsimple, hmessage⟩ :=
    isThrown_iff.1 (fits_qualified.1 hthrown)
  refine ⟨⟨.inner indent, namespaces, simple, message⟩,
    ⟨fits_many_one.1 hindent, hnamespaces, hsimple, fits_message.1 hmessage⟩, ?_, rfl⟩
  rintro ⟨-, rfl⟩
  simp at hcount

-- ============================================================= the law

/-- The law of headers. A line of the form that is no diagnostic opens a
trace, unless it is an inner exception whose type shows no namespace; then
it is not recognized at all. Every line that opens a trace has the form,
is none of these, and is no diagnostic. -/
theorem detect_exceptionHeader (line : String) :
    (∀ h : Header, h.WellFormed → line.toList = h.text →
        ¬ diagnosticPattern.Fits line.toList →
        Ecosystem.csharp.detect line = if h.IsBareInner then none else some .traceHeader)
      ∧ (Ecosystem.csharp.detect line = some .traceHeader →
          ¬ diagnosticPattern.Fits line.toList
            ∧ ∃ h : Header, h.WellFormed ∧ ¬ h.IsBareInner ∧ line.toList = h.text) := by
  refine ⟨fun h hform htext hdiagnostic => Header.detect_text hform htext hdiagnostic,
    fun hdetect => ?_⟩
  have hverdict : verdict line.toList = .recognized .traceHeader :=
    Verdict.match?_eq_some_iff.1 hdetect
  obtain ⟨hnone, hheader⟩ := of_verdict_traceHeader hverdict
  refine ⟨fun hfits => ?_, ?_⟩
  · rw [fits_diagnosticPattern, hnone] at hfits
    cases hfits
  · rcases hheader with hheader | hheader
    · exact exists_of_isHeader hheader
    · exact exists_of_isInnerHeader hheader

/-- A generic type behind a phrase with nothing after it, and behind the
arrow with a namespace and without one. -/
theorem detect_exceptionHeader_generic :
    Ecosystem.csharp.detect "Unhandled exception. Task\x601" = some .traceHeader
      ∧ Ecosystem.csharp.detect "\t---> Ns.Task\x601: a(1,2): error" = some .traceHeader
      ∧ Ecosystem.csharp.detect "\t---> Task\x601: a(1,2): error" = none := by
  have hphrase : Header.WellFormed ⟨.core, [], "Task\x601".toList, []⟩ :=
    { introduction := trivial
      namespaces := List.all_eq_true.1 rfl
      simple := by decide
      message := .inl rfl }
  have hsimple : isName "Task\x601".toList = true := by decide
  have hmessage : ": a(1,2): error".toList = ':' :: " a(1,2): error".toList := by decide
  have harrow (namespaces : List (List Char))
      (hnamespaces : ∀ name ∈ namespaces, isName name = true) :
      Header.WellFormed ⟨.inner ['\t'], namespaces, "Task\x601".toList,
        ": a(1,2): error".toList⟩ :=
    { introduction := List.all_eq_true.1 rfl
      namespaces := hnamespaces
      simple := hsimple
      message := .inr ⟨" a(1,2): error".toList, hmessage, by decide⟩ }
  refine ⟨?_, ?_, ?_⟩
  · rw [(detect_exceptionHeader _).1 _ hphrase (by decide)
      (fits_diagnosticPattern.not.2 (by decide +kernel))]
    rfl
  · rw [(detect_exceptionHeader _).1 _ (harrow ["Ns".toList] (List.all_eq_true.1 rfl))
      (by decide) (fits_diagnosticPattern.not.2 (by decide +kernel))]
    rfl
  · rw [(detect_exceptionHeader _).1 _ (harrow [] (List.all_eq_true.1 rfl)) (by decide)
      (fits_diagnosticPattern.not.2 (by decide +kernel))]
    rfl

/-- The arrow in front of a type without a namespace does not open a
trace, though the line has the form and is no diagnostic. -/
theorem detect_bareInnerType :
    ¬ ∀ (h : Header) (m : List Char), h.WellFormed → h.message = ": ".toList ++ m →
        ¬ diagnosticPattern.Fits h.text →
        Ecosystem.csharp.detect (String.ofList h.text) = some .traceHeader := by
  intro hall
  have hform : Header.WellFormed ⟨.inner [], [], "Foo".toList, ": bar".toList⟩ :=
    { introduction := List.all_eq_true.1 rfl
      namespaces := List.all_eq_true.1 rfl
      simple := by decide
      message := .inr ⟨" bar".toList, by decide, by decide⟩ }
  have hdetect := hall _ "bar".toList hform (by decide)
    (fits_diagnosticPattern.not.2 (by decide +kernel))
  revert hdetect
  decide +kernel

end ConsoleLinks.CSharp
