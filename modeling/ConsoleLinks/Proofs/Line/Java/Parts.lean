/-
The parts of an `at` line, read back: whatever `AtLine.ofLine?` and
`Source.ofText?` take apart is the line they were given, and a frame's
location is built from exactly these parts (`of_verdict_location`). What
else a line can be recognized as is said once, by `of_verdict`.

Consumed by the linking law (`Proofs/Linking.lean`), which cuts the
location's span out of the line again, and by the header law
(`Header.lean`).
-/
import ConsoleLinks.Line.Java
import ConsoleLinks.Proofs.Text.Runs

namespace ConsoleLinks.Java

open Text

/-- The module part is the beginning of the text it is taken from. -/
theorem modulePart_append_drop (text : List Char) :
    modulePart text ++ text.drop (modulePart text).length = text := by
  refine List.prefix_iff_eq_append.1 ?_
  have hrun : text.takeWhile inModule <+: text := List.takeWhile_prefix inModule
  refine List.IsPrefix.trans ?_ hrun
  unfold modulePart
  rw [← List.reverse_suffix, List.reverse_reverse]
  exact List.dropWhile_suffix _

/-- A module part: characters of one up to a slash, or nothing. -/
def IsModulePart (owner : List Char) : Prop :=
  (∀ c ∈ owner, inModule c = true) ∧ (owner = [] ∨ ['/'] <:+ owner)

/-- What is taken for the module part is one. -/
theorem isModulePart_modulePart (text : List Char) :
    IsModulePart (modulePart text) := by
  unfold modulePart
  refine ⟨fun c hc => ?_, ?_⟩
  · have hrun := (List.dropWhile_sublist _).subset (List.mem_reverse.1 hc)
    exact List.all_eq_true.1 List.all_takeWhile c (List.mem_reverse.1 hrun)
  · cases hslash : (text.takeWhile inModule).reverse.dropWhile (· ≠ '/') with
    | nil => exact .inl rfl
    | cons c rest =>
        have hc : c = '/' := by simpa using head_of_dropWhile_eq_cons hslash
        rw [List.reverse_cons, hc]
        exact .inr (List.suffix_append _ _)

/-- What the parts of an `at` line are. -/
structure AtLine.WellFormed (l : AtLine) : Prop where
  opening : ∃ indent gap owner, l.opening = indent ++ "at".toList ++ gap ++ owner
    ∧ (∀ c ∈ indent, isBlank c = true)
    ∧ gap ≠ [] ∧ (∀ c ∈ gap, isBlank c = true) ∧ IsModulePart owner
  symbol : isSymbol l.symbol = true
  source : ')' ∉ l.source
  packaging : isPackaging l.packaging = true

/-- An `at` line is the text of its parts, and they are what they have to
be. -/
theorem AtLine.wellFormed_of_ofLine? {line : List Char} {l : AtLine}
    (h : AtLine.ofLine? line = some l) : l.text = line ∧ l.WellFormed := by
  unfold AtLine.ofLine? at h
  dsimp only at h
  split at h
  next => cases h
  next rest hat =>
    have hindent := eq_append_of_afterWord? hat
    split at h
    next => cases h
    next c inside hopen =>
      have hcall := eq_append_of_dropWhile_ne hopen
      split at h
      next => cases h
      next c' packaging hclose =>
        have hinside := eq_append_of_dropWhile_ne hclose
        split at h
        next hshape =>
          injection h with h
          subst h
          simp only [Bool.and_eq_true, Bool.not_eq_true'] at hshape
          have hsource : ')' ∉ inside.takeWhile (· ≠ ')') := by
            intro hmem
            have hne := List.all_eq_true.1 List.all_takeWhile _ hmem
            simp at hne
          refine ⟨?_, ⟨line.takeWhile isBlank, rest.takeWhile isBlank, _, rfl,
            List.all_eq_true.1 List.all_takeWhile, by simpa using hshape.1.1,
            List.all_eq_true.1 List.all_takeWhile, isModulePart_modulePart _⟩,
            hshape.1.2, hsource, hshape.2⟩
          -- the cuts in order: indentation, gap, module part, `(`, `)`
          have hline := List.takeWhile_append_dropWhile (p := isBlank) (l := line)
          have hrest := List.takeWhile_append_dropWhile (p := isBlank) (l := rest)
          have howner := modulePart_append_drop (rest.dropWhile isBlank)
          rw [hcall, hinside] at howner
          rw [← howner] at hrest
          rw [hindent, ← hrest] at hline
          simpa [AtLine.text] using hline
        next => cases h

/-- An `at` line opens with white space, `at` and more white space. -/
theorem AtLine.of_ofLine? {line : List Char} {l : AtLine}
    (h : AtLine.ofLine? line = some l) :
    l.text = line
      ∧ ∃ indent gap owner, l.opening = indent ++ "at".toList ++ gap ++ owner
          ∧ (∀ c ∈ indent, isBlank c = true)
          ∧ gap ≠ [] ∧ ∀ c ∈ gap, isBlank c = true := by
  obtain ⟨htext, hform⟩ := wellFormed_of_ofLine? h
  obtain ⟨indent, gap, owner, hopening, hindent, hne, hgap, -⟩ := hform.opening
  exact ⟨htext, indent, gap, owner, hopening, hindent, hne, hgap⟩

/-- A position between the parentheses is a file and a number joined by
a colon. -/
theorem Source.eq_of_ofText? {text file number : List Char}
    (h : Source.ofText? text = some (.position file number)) :
    text = file ++ [':'] ++ number := by
  unfold Source.ofText? at h
  dsimp only at h
  split at h
  next => cases h
  next =>
    split at h
    next =>
      split at h
      next => cases h
      next c rest hcolon =>
        split at h
        next =>
          injection h with h
          injection h with hfile hnumber
          subst hfile hnumber
          have hsplit := eq_append_of_dropWhile_ne hcolon
          simpa using hsplit
        next => cases h
    next => cases h

/-- The ways in which a line is recognized: an `at` line with a position
or without, a count of frames left out, or a header. -/
theorem of_verdict {line : List Char} {m : LineMatch}
    (h : verdict line = .recognized m) :
    (∃ (l : AtLine) (file number : List Char) (n : UInt32),
        AtLine.ofLine? line = some l
          ∧ Source.ofText? l.source = some (.position file number)
          ∧ position? number = some n
          ∧ m = .stackFrame (l.location file number n))
      ∨ m = .continuation
          ∧ ((∃ l, AtLine.ofLine? line = some l
                ∧ Source.ofText? l.source = some .noPosition)
              ∨ AtLine.ofLine? line = none ∧ isElision line = true)
      ∨ m = .traceHeader ∧ AtLine.ofLine? line = none
          ∧ isElision line = false ∧ isHeader line = true := by
  unfold verdict at h
  split at h
  next l hl =>
    split at h
    next file number hsource =>
      split at h
      next n hn =>
        injection h with h
        exact Or.inl ⟨l, file, number, n, hl, hsource, hn, h.symm⟩
      next => cases h
    next hsource =>
      injection h with h
      exact Or.inr (Or.inl ⟨h.symm, Or.inl ⟨l, hl, hsource⟩⟩)
    next => cases h
  next hl =>
    split at h
    next helision =>
      injection h with h
      exact Or.inr (Or.inl ⟨h.symm, Or.inr ⟨hl, helision⟩⟩)
    next helision =>
      split at h
      next hheader =>
        injection h with h
        exact Or.inr (Or.inr ⟨h.symm, hl, by simpa using helision, hheader⟩)
      next => cases h

/-- The location of a recognized line is that of an `at` line with a
position between its parentheses. -/
theorem of_verdict_location {line : List Char} {m : LineMatch}
    {place : SourceLocation} (h : verdict line = .recognized m)
    (hplace : m.location? = some place) :
    ∃ (l : AtLine) (file number : List Char) (n : UInt32),
      l.text = line ∧ l.source = file ++ [':'] ++ number
        ∧ position? number = some n
        ∧ m = .stackFrame (l.location file number n) := by
  rcases of_verdict h with
    ⟨l, file, number, n, hl, hsource, hn, hm⟩ | ⟨hm, -⟩ | ⟨hm, -⟩
  · exact ⟨l, file, number, n, (AtLine.of_ofLine? hl).1,
      Source.eq_of_ofText? hsource, hn, hm⟩
  · rw [hm] at hplace
    cases hplace
  · rw [hm] at hplace
    cases hplace

end ConsoleLinks.Java
