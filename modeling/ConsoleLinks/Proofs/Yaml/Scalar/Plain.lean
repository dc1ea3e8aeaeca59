/-
Plain scalars, printed and read back.

A text that fits between no quotes has no structure in it, so the reader
walks over its words and the blanks between them to its end
(`scan_text`), whatever stands behind it. What it finds there decides how
it stops: the colon behind a key at once (`scan_key`), the end of the line
only where the next token begins, a line further and in a column that lies
outside of the block (`scan_line`).

Keys are plain scalars of the simplest kind, words (`isKey`).

Consumed by the tokens of scalars (`Proofs/Yaml/Steps.lean`).
-/
import ConsoleLinks.Proofs.Text.Classes
import ConsoleLinks.Proofs.Yaml.Characters
import ConsoleLinks.Yaml.Layout
import ConsoleLinks.Yaml.Scalar.Plain

namespace ConsoleLinks.Yaml.Plain

open Printer (isPrintable isIndicator hasStructure beginsStructure fitsPlain spaces)

/-- The text of a plain scalar, or what is left of it behind blanks:
printable, in one line, without structure and without blanks at its
end. -/
structure Words (afterGap : Bool) (text : List Char) : Prop where
  printable : Printable text
  unbroken : ∀ c ∈ text, isBreak c = false
  unstructured : hasStructure afterGap text = false
  closed : text.getLast? ≠ some ' '
  /-- Blanks are followed by something. -/
  opened : afterGap = true → text ≠ []

-- ============================================================ within words

/-- Of the words of a text those behind the first character remain. -/
theorem Words.tail {afterGap : Bool} {c : Char} {rest : List Char}
    (h : Words afterGap (c :: rest)) : Words (decide (c = ' ')) rest where
  printable d hd := h.printable d (List.mem_cons_of_mem c hd)
  unbroken d hd := h.unbroken d (List.mem_cons_of_mem c hd)
  unstructured := by
    have hgap : atGap [c] = decide (c = ' ') := by
      simp [atGap, isBlank_eq_of_isPrintable (h.printable c List.mem_cons_self),
        h.unbroken c List.mem_cons_self]
    have hall := h.unstructured
    rw [hasStructure, hgap] at hall
    exact (Bool.or_eq_false_iff.1 hall).2
  closed hlast := by
    have hne : rest ≠ [] := fun hnil => by simp [hnil] at hlast
    apply h.closed
    rw [List.getLast?_cons_of_ne_nil hne, hlast]
  opened hc hnil := by
    apply h.closed
    rw [hnil, of_decide_eq_true hc]
    rfl

/-- What stands at the front of words is no structure. -/
theorem Words.head {afterGap : Bool} {c : Char} {rest : List Char}
    (h : Words afterGap (c :: rest)) :
    (c = ':' → atGap rest = false) ∧ (c = '#' → afterGap = false) := by
  have hall := h.unstructured
  rw [hasStructure, Bool.or_eq_false_iff, Bool.or_eq_false_iff] at hall
  constructor
  · intro hc
    simpa [hc] using hall.1.1
  · intro hc
    simpa [hc] using hall.1.2

/-- A colon among words is not in front of a gap, whatever the text goes
on with. -/
theorem Words.not_colon {afterGap : Bool} {c : Char} {rest : List Char}
    (h : Words afterGap (c :: rest)) (behind : List Char) :
    (c = ':' && atGap (rest ++ behind)) = false := by
  by_cases hc : c = ':'
  · have hgap := h.head.1 hc
    have hne : rest ≠ [] := by
      intro hnil
      rw [hnil] at hgap
      cases hgap
    rw [atGap_append hne, hgap, Bool.and_false]
  · simp [hc]

variable {margin : Nat}

/-- The reader walks over words to their end. The gap it comes with is
made of blanks, and does not begin a line. -/
theorem scan_text {text : List Char} (blanks : List Char)
    (h : Words (!blanks.isEmpty) text) (read : List Char) {place : Place}
    (hplace : blanks ≠ [] → 0 < place.column) (behind : List Char) :
    scan false margin { blanks := blanks } read place (text ++ behind)
      = scan false margin {} (text.reverse ++ blanks ++ read)
          ⟨place.line, place.column + text.length⟩ behind := by
  induction text generalizing blanks read place with
  | nil =>
      cases blanks with
      | nil => simp
      | cons b bs => exact absurd rfl (h.opened rfl)
  | cons c rest ih =>
      have hbreak := h.unbroken c List.mem_cons_self
      have hblank := isBlank_eq_of_isPrintable (h.printable c List.mem_cons_self)
      have hnext := place.next_of_not_isBreak hbreak
      have htail := h.tail
      rw [List.cons_append, scan, hnext]
      by_cases hc : c = ' '
      · -- one more blank of the gap
        have hpush : Gap.push { blanks := blanks } c = { blanks := c :: blanks } := by
          simp [Gap.push, hbreak, Gap.broken]
        rw [if_pos (by simp [hc, isBlank_space]), if_neg (by simp [Gap.broken]), hpush,
          ih _ (by simpa [hc] using htail) read (fun _ => Nat.succ_pos _)]
        simp only [List.reverse_cons, List.length_cons, List.append_assoc,
          List.cons_append, List.nil_append, Nat.add_assoc, Nat.add_comm 1]
      · -- a word goes on, or begins behind the gap
        have hends : (!Gap.isEmpty { blanks := blanks }
            && endsBehind false margin { blanks := blanks } place (c :: (rest ++ behind)))
              = false := by
          by_cases hnil : blanks = []
          · simp [hnil, Gap.isEmpty]
          · have hmark : c ≠ '#' := by
              intro hmark
              have hgap := h.head.2 hmark
              simp [hnil] at hgap
            have hcolumn := Nat.ne_of_gt (hplace hnil)
            simp [endsBehind, hcolumn, hmark, Gap.broken]
        rw [if_neg (by simp [hblank, hbreak, hc]), if_neg (by simp [hends]),
          if_neg (by simp), if_neg (by simpa using h.not_colon behind),
          show ({} : Gap) = { blanks := [] } from rfl,
          ih _ (by simpa [hc] using htail) _ (fun hne => absurd rfl hne)]
        simp only [Gap.onto, Gap.text, List.reverse_cons, List.length_cons,
          List.append_assoc, List.cons_append, List.nil_append, List.append_nil,
          List.reverse_nil, List.reverse_reverse, Nat.add_assoc, Nat.add_comm 1]

-- ============================================================== the ends

/-- Words in front of a colon are read to the colon. -/
theorem scan_key (margin : Nat) {text : List Char} (h : Words false text) (place : Place)
    {rest : List Char} (hgap : atGap rest = true) :
    scan false margin {} [] place (text ++ ':' :: rest)
      = some ((text, false), ⟨⟨place.line, place.column + text.length⟩, ':' :: rest⟩) := by
  rw [show ({} : Gap) = { blanks := [] } from rfl, scan_text [] h [] (fun hne => absurd rfl hne),
    scan, if_neg (by decide), if_neg (by simp [Gap.isEmpty]), if_neg (by simp),
    if_pos (by simp [hgap])]
  simp [Gap.broken]

/-- Once a gap reaches over the end of a line, the blanks that follow are
passed over. -/
theorem scan_spaces {gap : Gap} (hgap : gap.broken = true) (read : List Char)
    (place : Place) (k : Nat) (next : List Char) :
    scan false margin gap read place (spaces k ++ next)
      = scan false margin gap read ⟨place.line, place.column + k⟩ next := by
  induction k generalizing place with
  | zero => rfl
  | succ k ih =>
      have hpush : gap.push ' ' = gap := by
        simp [Gap.push, isBreak_space, hgap]
      rw [spaces_succ, List.cons_append, scan, if_pos (by decide), if_neg (by simp), hpush,
        Place.next_space, ih]
      simp only [Nat.add_assoc, Nat.add_comm 1]

/-- Words at the end of a line are read to the next token, which begins in
a column that is outside of the block. -/
theorem scan_line {text : List Char} (h : Words false text) (place : Place)
    {k : Nat} (hk : k < margin) {next : List Char} (hnext : AtToken next) :
    scan false margin {} [] place (text ++ '\n' :: (spaces k ++ next))
      = some ((text, true), ⟨⟨place.line + 1, k⟩, next⟩) := by
  have hpush : Gap.push {} '\n' = { breaks := ['\n'] } := by decide
  rw [show ({} : Gap) = { blanks := [] } from rfl, scan_text [] h [] (fun hne => absurd rfl hne),
    scan, if_pos (by decide), if_neg (by simp), hpush, Place.next_newline,
    scan_spaces (by decide), Nat.zero_add]
  cases next with
  | nil => simp [scan, Gap.broken]
  | cons c rest =>
      obtain ⟨hblank, hbreak, -, -⟩ := atToken_cons.1 hnext
      rw [scan, if_neg (by simp [hblank, hbreak]),
        if_pos (by simp [Gap.isEmpty, endsBehind, Gap.broken, hk])]
      simp [Gap.broken]

-- ============================================================ which texts

/-- Behind a gap more would be taken for structure. -/
theorem hasStructure_false {text : List Char} (h : hasStructure true text = false) :
    hasStructure false text = false := by
  cases text with
  | nil => rfl
  | cons c rest =>
      rw [hasStructure, Bool.or_eq_false_iff, Bool.or_eq_false_iff] at *
      exact ⟨⟨h.1.1, Bool.and_false _⟩, h.2⟩

/-- What is printed without quotes is words. -/
theorem words_of_fitsPlain {text : List Char} (h : fitsPlain text = true) :
    Words false text := by
  simp only [fitsPlain, Bool.and_eq_true, Bool.not_eq_true', List.any_eq_false,
    decide_eq_true_eq, Bool.not_eq_true] at h
  obtain ⟨⟨⟨⟨⟨⟨hescapes, hbreak⟩, -⟩, hlast⟩, -⟩, -⟩, hstructure⟩ := h
  exact {
    printable := (of_needsEscapes hescapes).1
    unbroken := hbreak
    unstructured := hasStructure_false hstructure
    closed := hlast
    opened := nofun }

/-- What is printed without quotes begins with a word. -/
theorem front_of_fitsPlain {c : Char} {rest : List Char} (h : fitsPlain (c :: rest) = true) :
    AtToken (c :: rest) ∧ beginsStructure (c :: rest) = false := by
  have hwords := words_of_fitsPlain h
  have hprintable := hwords.printable c List.mem_cons_self
  simp only [fitsPlain, Bool.and_eq_true, Bool.not_eq_true', List.head?_cons, ne_eq,
    decide_eq_true_eq, Option.some.injEq] at h
  obtain ⟨⟨⟨⟨⟨-, hspace⟩, -⟩, -⟩, hstart⟩, -⟩ := h
  have hsign : isIndicator c = false := by
    rw [beginsStructure, Bool.or_eq_false_iff] at hstart
    exact hstart.1
  have hcomment : c ≠ '#' := by
    intro hc
    rw [hc] at hsign
    revert hsign
    decide
  have hblank : isBlank c = false := by
    simp [isBlank_eq_of_isPrintable hprintable, hspace]
  exact ⟨atToken_cons.2 ⟨hblank, hwords.unbroken c List.mem_cons_self, hcomment,
    ne_of_isPrintable hprintable (by decide)⟩, hstart⟩

/-- What a text goes on with does not make its beginning structure. -/
theorem beginsStructure_append {c : Char} {rest : List Char}
    (h : beginsStructure (c :: rest) = false) (behind : List Char) :
    beginsStructure (c :: (rest ++ behind)) = false := by
  rw [beginsStructure, Bool.or_eq_false_iff] at *
  refine ⟨h.1, ?_⟩
  cases rest with
  | nil =>
      have hsign : (decide (c = '-') || decide (c = '?') || decide (c = ':')) = false := by
        simpa [atGap] using h.2
      rw [hsign, Bool.false_and]
  | cons d rest => exact h.2

-- =================================================================== keys

/-- The characters of words. -/
def isKeyChar (c : Char) : Bool := c.isAlphanum || c = '_'

/-- Whether a text is a word, short enough to be a key. -/
def isKey (key : String) : Bool :=
  !key.toList.isEmpty && key.toList.all isKeyChar
    && key.toList.length ≤ Layout.longestKey

/-- The characters of words are printable, and none of the signs. -/
theorem isPrintable_of_isKeyChar {c : Char} (h : isKeyChar c = true) :
    isPrintable c = true ∧ ∀ d, isKeyChar d = false → c ≠ d := by
  constructor
  · simp only [isKeyChar, Char.isAlphanum, Bool.or_eq_true, decide_eq_true_eq] at h
    simp only [isPrintable, Bool.or_eq_true, Bool.and_eq_true, decide_eq_true_eq]
    rcases h with (h | h) | h
    · have hrange := Text.toNat_of_isAlpha h
      omega
    · have hrange := Text.toNat_of_isDigit h
      omega
    · rw [h]
      decide
  · intro d hd hcd
    rw [hcd, hd] at h
    cases h

theorem isKeyChar_of_isKey {key : String} (h : isKey key = true) :
    ∀ c ∈ key.toList, isKeyChar c = true := by
  simp only [isKey, Bool.and_eq_true, List.all_eq_true] at h
  exact h.1.2

/-- No character of a word is a break, a colon or the sign of a
comment. -/
theorem words_of_isKeyChar {text : List Char} (h : ∀ c ∈ text, isKeyChar c = true) :
    Words false text where
  printable c hc := (isPrintable_of_isKeyChar (h c hc)).1
  unbroken c hc := by
    have hne := (isPrintable_of_isKeyChar (h c hc)).2
    simp [isBreak, hne '\n' (by decide), hne '\u2028' (by decide), hne '\u2029' (by decide)]
  unstructured := by
    have hall (afterGap : Bool) : hasStructure afterGap text = false := by
      induction text generalizing afterGap with
      | nil => rfl
      | cons c rest ih =>
          have hne := (isPrintable_of_isKeyChar (h c List.mem_cons_self)).2
          rw [hasStructure, ih fun d hd => h d (List.mem_cons_of_mem c hd)]
          simp [hne ':' (by decide), hne '#' (by decide)]
    exact hall false
  closed hlast := by
    have hspace := h ' ' (List.mem_of_getLast? hlast)
    revert hspace
    decide
  opened := nofun

/-- A token can begin with a character of words. -/
theorem atToken_of_isKeyChar {c : Char} (h : isKeyChar c = true) (rest : List Char) :
    AtToken (c :: rest) := by
  have hne := (isPrintable_of_isKeyChar h).2
  refine atToken_cons.2 ⟨?_, ?_, hne '#' (by decide), hne byteOrderMark (by decide)⟩
  · simp [isBlank, hne ' ' (by decide), hne '\t' (by decide)]
  · simp [isBreak, hne '\n' (by decide), hne '\u2028' (by decide), hne '\u2029' (by decide)]

/-- A token can begin with a word. -/
theorem atToken_of_isKey {key : String} (h : isKey key = true) (behind : List Char) :
    AtToken (key.toList ++ behind) := by
  cases hk : key.toList with
  | nil => simp [isKey, hk] at h
  | cons c cs => exact atToken_of_isKeyChar (isKeyChar_of_isKey h c (by simp [hk])) _

/-- A word begins no structure. -/
theorem beginsStructure_of_isKeyChar {c : Char} (h : isKeyChar c = true) (rest : List Char) :
    beginsStructure (c :: rest) = false := by
  have hne := (isPrintable_of_isKeyChar h).2
  have hsigns : "#,[]\x7b\x7d&*!|>'\"%@\x60".toList.all (fun d => !isKeyChar d) = true := by
    decide
  have hindicator : isIndicator c = false := by
    simp only [isIndicator, List.contains_eq_mem, decide_eq_false_iff_not]
    intro hmem
    have hsign := List.all_eq_true.1 hsigns c hmem
    rw [h] at hsign
    cases hsign
  simp [beginsStructure, hindicator, hne '-' (by decide), hne '?' (by decide),
    hne ':' (by decide)]

end ConsoleLinks.Yaml.Plain
