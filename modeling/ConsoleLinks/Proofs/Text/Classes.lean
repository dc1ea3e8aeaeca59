/-
How the character classes lie to one another: the letters of ASCII are
word characters, and white space is none. The tables settle this once, by
a walk over the few code points in question; the grammars' classes are
built from these and single characters.
-/
import ConsoleLinks.Text.Blank
import ConsoleLinks.Text.Digit
import ConsoleLinks.Text.Word

namespace ConsoleLinks.Text

-- =============================================================== ASCII

/-- A letter of ASCII. -/
def AsciiLetter (c : Char) : Prop := 'A' ≤ c ∧ c ≤ 'Z' ∨ 'a' ≤ c ∧ c ≤ 'z'

/-- A digit of ASCII. -/
def AsciiDigit (c : Char) : Prop := '0' ≤ c ∧ c ≤ '9'

theorem isAlpha_iff {c : Char} : c.isAlpha = true ↔ AsciiLetter c := by
  constructor
  · intro h
    rcases Bool.or_eq_true_iff.1 h with h | h
    · exact .inl (of_decide_eq_true h)
    · have hrange := Bool.and_eq_true_iff.1 h
      exact .inr ⟨of_decide_eq_true hrange.1, of_decide_eq_true hrange.2⟩
  · intro h
    apply Bool.or_eq_true_iff.2
    rcases h with h | ⟨hlow, hhigh⟩
    · exact .inl (decide_eq_true h)
    · exact .inr (Bool.and_eq_true_iff.2 ⟨decide_eq_true hlow, decide_eq_true hhigh⟩)

theorem isDigit_iff {c : Char} : c.isDigit = true ↔ AsciiDigit c := by
  simp only [Char.isDigit, AsciiDigit, Bool.and_eq_true, decide_eq_true_eq]
  rfl

theorem isAlphanum_iff {c : Char} :
    c.isAlphanum = true ↔ AsciiLetter c ∨ AsciiDigit c := by
  rw [Char.isAlphanum, Bool.or_eq_true, isAlpha_iff, isDigit_iff]

-- ========================================================== code points

/-- The code points of the ASCII letters. -/
theorem toNat_of_isAlpha {c : Char} (h : c.isAlpha = true) :
    65 ≤ c.toNat ∧ c.toNat ≤ 90 ∨ 97 ≤ c.toNat ∧ c.toNat ≤ 122 := by
  rcases Bool.or_eq_true_iff.1 h with h | h
  · exact .inl (of_decide_eq_true h)
  · have hrange := Bool.and_eq_true_iff.1 h
    exact .inr ⟨of_decide_eq_true hrange.1, of_decide_eq_true hrange.2⟩

/-- The code points of the ASCII digits. -/
theorem toNat_of_isDigit {c : Char} (h : c.isDigit = true) :
    48 ≤ c.toNat ∧ c.toNat ≤ 57 := by
  have hrange := Bool.and_eq_true_iff.1 h
  exact ⟨of_decide_eq_true hrange.1, of_decide_eq_true hrange.2⟩

/-- Letters are word characters. -/
theorem isWord_of_isAlpha {c : Char} (h : c.isAlpha = true) : isWord c = true := by
  have htable : ∀ n < 123, 65 ≤ n ∧ n ≤ 90 ∨ 97 ≤ n ∧ n ≤ 122 →
      wordRanges.covers n = true := by decide
  have hc := toNat_of_isAlpha h
  exact htable c.toNat (by omega) hc

/-- A table that covers no code point of white space, range by range, covers
no character of it. -/
theorem covers_of_isBlank {table : Ranges}
    (htable : ∀ r ∈ blankRanges, ∀ k < r.2 - r.1 + 1, table.covers (r.1 + k) = false)
    {c : Char} (h : isBlank c = true) : table.covers c.toNat = false := by
  obtain ⟨r, hr, hlow, hhigh⟩ := Ranges.exists_of_covers h
  have hpoint := htable r hr (c.toNat - r.1) (by omega)
  rw [show r.1 + (c.toNat - r.1) = c.toNat by omega] at hpoint
  exact hpoint

/-- White space is no part of a word. -/
theorem isWord_of_isBlank {c : Char} (h : isBlank c = true) : isWord c = false :=
  covers_of_isBlank (by decide +kernel) h

/-- Letters are no white space. -/
theorem isBlank_of_isAlpha {c : Char} (h : c.isAlpha = true) : isBlank c = false := by
  cases hblank : isBlank c with
  | false => rfl
  | true =>
      have hword := isWord_of_isAlpha h
      rw [isWord_of_isBlank hblank] at hword
      cases hword

/-- Digits are no letters. -/
theorem isAlpha_of_isDigit {c : Char} (h : isDigit c = true) : c.isAlpha = false := by
  have htable : ∀ n < 123, 65 ≤ n ∧ n ≤ 90 ∨ 97 ≤ n ∧ n ≤ 122 →
      digitRanges.covers n = false := by decide
  cases halpha : c.isAlpha with
  | false => rfl
  | true =>
      have hc := toNat_of_isAlpha halpha
      have hno := htable c.toNat (by omega) hc
      rw [isDigit, hno] at h
      cases h

/-- The digits of ASCII are digits. -/
theorem isDigit_of_ascii {c : Char} (h : c.isDigit = true) : isDigit c = true := by
  have htable : ∀ n < 58, 48 ≤ n → digitRanges.covers n = true := by decide
  have hc := toNat_of_isDigit h
  exact htable c.toNat (by omega) hc.1

/-- White space is no digit. -/
theorem isDigit_of_isBlank {c : Char} (h : isBlank c = true) : isDigit c = false :=
  covers_of_isBlank (by decide +kernel) h

/-- Digits are no white space. -/
theorem isBlank_of_isDigit {c : Char} (h : isDigit c = true) : isBlank c = false := by
  cases hblank : isBlank c with
  | false => rfl
  | true =>
      rw [isDigit_of_isBlank hblank] at h
      cases h

end ConsoleLinks.Text
