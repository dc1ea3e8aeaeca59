/-
Sets of code points, written as the standard's tables write them:
ascending inclusive ranges. Membership is a walk that stops at the first
range above the point looked for, so a table answers for a low code
point without reading its tail.

Base of the text layer; the property tables (`Blank`, `Digit`, `Word`,
`Unseen`) are values of this type.
-/

namespace ConsoleLinks.Text

/-- Inclusive ranges of code points, ascending and disjoint. -/
abbrev Ranges := List (Nat × Nat)

/-- Whether a code point lies in one of the ranges. -/
def Ranges.covers : Ranges → Nat → Bool
  | [], _ => false
  | (low, high) :: rest, point =>
    if point < low then false else point ≤ high || Ranges.covers rest point

/-- A covered point lies in one of the listed ranges, whatever their
order: the early stop only ever says no. -/
theorem Ranges.exists_of_covers {table : Ranges} {point : Nat}
    (h : table.covers point = true) :
    ∃ r ∈ table, r.1 ≤ point ∧ point ≤ r.2 := by
  induction table with
  | nil => simp [Ranges.covers] at h
  | cons r rest ih =>
    obtain ⟨low, high⟩ := r
    by_cases hlow : point < low
    · simp [Ranges.covers, hlow] at h
    · simp only [Ranges.covers, hlow, if_false, Bool.or_eq_true,
        decide_eq_true_eq] at h
      rcases h with h | h
      · exact ⟨(low, high), by simp, by omega, h⟩
      · obtain ⟨r, hr, hin⟩ := ih h
        exact ⟨r, by simp [hr], hin⟩

end ConsoleLinks.Text
