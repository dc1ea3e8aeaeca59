/-
Line and column numbers as a console line shows them: the texts that
`position?` takes are the non-empty runs of ASCII digits with a value
from one up to the largest 32-bit number, and it gives that value.
-/
import ConsoleLinks.Text.Decimal

namespace ConsoleLinks.Text

/-- A text is read as a number exactly when it is a run of ASCII digits that
stand for it. -/
theorem Decimal.read?_eq_some_iff {text : List Char} {n : Nat} :
    Decimal.read? text = some n
      ↔ text ≠ [] ∧ (∀ c ∈ text, c.isDigit = true) ∧ Nat.ofDigitChars 10 text 0 = n := by
  unfold Decimal.read?
  by_cases hdigits : (text.isEmpty || !text.all Char.isDigit) = true
  · rw [if_pos hdigits]
    constructor
    · intro h
      cases h
    · intro ⟨hne, hall, _⟩
      rw [List.all_eq_true.2 hall, Bool.not_true, Bool.or_false] at hdigits
      exact absurd (List.isEmpty_iff.1 hdigits) hne
  · rw [if_neg hdigits, Option.some.injEq]
    simp only [Bool.or_eq_true, Bool.not_eq_true', not_or, List.isEmpty_iff,
      Bool.not_eq_false, List.all_eq_true] at hdigits
    constructor
    · intro h
      exact ⟨hdigits.1, hdigits.2, h⟩
    · intro ⟨_, _, h⟩
      exact h

/-- ASCII digits, any number of leading zeros among them, that stand for
the position `n`. -/
structure IsPosition (text : List Char) (n : UInt32) : Prop where
  ne_nil : text ≠ []
  digits : ∀ c ∈ text, c.isDigit = true
  value : Nat.ofDigitChars 10 text 0 = n.toNat
  pos : 0 < n.toNat

/-- A text is read as a position exactly when it shows one. -/
theorem position?_eq_some_iff {text : List Char} {n : UInt32} :
    position? text = some n ↔ IsPosition text n := by
  unfold position?
  constructor
  · intro h
    split at h
    next => cases h
    next m hread =>
      obtain ⟨hne, hdigits, hvalue⟩ := Decimal.read?_eq_some_iff.1 hread
      split at h
      next hrange =>
        injection h with h
        have hm : n.toNat = m := by
          rw [← h]
          exact UInt32.toNat_ofNat_of_lt hrange.2
        exact ⟨hne, hdigits, by rw [hm, hvalue], by rw [hm]; exact hrange.1⟩
      next => cases h
  · intro ⟨hne, hdigits, hvalue, hpos⟩
    rw [Decimal.read?_eq_some_iff.2 ⟨hne, hdigits, hvalue⟩]
    have hlt : n.toNat < UInt32.size := n.toNat_lt_size
    dsimp only
    rw [if_pos ⟨hpos, hlt⟩, UInt32.ofNat_toNat]

theorem position?_eq_none_iff {text : List Char} :
    position? text = none ↔ ∀ n, ¬ IsPosition text n := by
  simp only [Option.eq_none_iff_forall_ne_some, ne_eq, position?_eq_some_iff]

end ConsoleLinks.Text
