/-
Cuts of a text by byte offsets, read as statements about its characters:
a cut exists exactly where the text has two parts with the offset for the
length of the first (`cutAt?_eq_some_iff`), and a span likewise with three
(`cutSpan?_eq_some_iff`). Offsets inside a character or beyond the end
have no such parts.
-/
import ConsoleLinks.Text.Bytes

namespace ConsoleLinks.Text

/-- Every character takes at least one byte, so only the empty text has
none. -/
theorem eq_nil_of_byteLength_eq_zero {text : List Char}
    (h : byteLength text = 0) : text = [] := by
  cases text with
  | nil => rfl
  | cons c text =>
      have hpos := c.utf8Size_pos
      rw [byteLength_cons] at h
      omega

/-- The cutting loop moves a part of the text over whose bytes it
counts. -/
theorem cutFrom_eq_some_iff {text before rest : List Char} :
    ∀ {moved : List Char} {offset : Nat},
      cutFrom moved offset text = some (before, rest)
        ↔ ∃ part, before = moved.reverse ++ part ∧ text = part ++ rest
            ∧ byteLength part = offset := by
  induction text with
  | nil =>
      intro moved offset
      cases offset with
      | zero =>
          constructor
          · intro h
            injection h with h
            injection h with hbefore hrest
            exact ⟨[], by simp [hbefore], by simp [← hrest], rfl⟩
          · rintro ⟨part, hbefore, htext, -⟩
            have hnil := List.append_eq_nil_iff.1 htext.symm
            simp [cutFrom, hbefore, hnil.1, hnil.2]
      | succ offset =>
          constructor
          · intro h
            cases h
          · rintro ⟨part, -, htext, hlen⟩
            have hnil := List.append_eq_nil_iff.1 htext.symm
            rw [hnil.1, byteLength_nil] at hlen
            omega
  | cons c text ih =>
      intro moved offset
      have hpos := c.utf8Size_pos
      cases offset with
      | zero =>
          constructor
          · intro h
            injection h with h
            injection h with hbefore hrest
            exact ⟨[], by simp [hbefore], by simp [hrest], rfl⟩
          · rintro ⟨part, hbefore, htext, hlen⟩
            have hpart := eq_nil_of_byteLength_eq_zero hlen
            subst hpart
            simp [cutFrom, hbefore, htext]
      | succ offset =>
          by_cases hfits : c.utf8Size ≤ offset + 1
          · simp only [cutFrom, hfits, if_true]
            rw [ih]
            constructor
            · rintro ⟨part, hbefore, htext, hlen⟩
              refine ⟨c :: part, by simp [hbefore], by simp [htext], ?_⟩
              rw [byteLength_cons]
              omega
            · rintro ⟨part, hbefore, htext, hlen⟩
              cases part with
              | nil =>
                  rw [byteLength_nil] at hlen
                  omega
              | cons b part =>
                  injection htext with hbc htext
                  subst hbc
                  rw [byteLength_cons] at hlen
                  exact ⟨part, by simp [hbefore], htext, by omega⟩
          · simp only [cutFrom, hfits, if_false]
            constructor
            · intro h
              cases h
            · rintro ⟨part, -, htext, hlen⟩
              cases part with
              | nil =>
                  rw [byteLength_nil] at hlen
                  omega
              | cons b part =>
                  injection htext with hbc _
                  subst hbc
                  rw [byteLength_cons] at hlen
                  omega

/-- A text is cut at an offset exactly where a part of that many bytes
ends. -/
theorem cutAt?_eq_some_iff {offset : Nat} {text before rest : List Char} :
    cutAt? offset text = some (before, rest)
      ↔ text = before ++ rest ∧ byteLength before = offset := by
  unfold cutAt?
  rw [cutFrom_eq_some_iff]
  constructor
  · rintro ⟨part, hbefore, htext, hlen⟩
    rw [List.reverse_nil, List.nil_append] at hbefore
    subst hbefore
    exact ⟨htext, hlen⟩
  · rintro ⟨htext, hlen⟩
    exact ⟨before, rfl, htext, hlen⟩

/-- A span is cut out exactly where parts of these lengths begin and end
it. -/
theorem cutSpan?_eq_some_iff {start stop : Nat}
    {text before inside behind : List Char} :
    cutSpan? start stop text = some (before, inside, behind)
      ↔ text = before ++ inside ++ behind ∧ byteLength before = start
          ∧ byteLength before + byteLength inside = stop := by
  constructor
  · intro h
    unfold cutSpan? at h
    split at h
    next hle =>
      split at h
      next => cases h
      next before' rest hcut =>
        split at h
        next => cases h
        next inside' behind' hcut' =>
          injection h with h
          injection h with h₁ h
          injection h with h₂ h₃
          subst h₁ h₂ h₃
          obtain ⟨htext, hstart⟩ := cutAt?_eq_some_iff.1 hcut
          obtain ⟨hrest, hinside⟩ := cutAt?_eq_some_iff.1 hcut'
          refine ⟨by rw [htext, hrest, List.append_assoc], hstart, by omega⟩
    next => cases h
  · rintro ⟨htext, hstart, hstop⟩
    have hcut : cutAt? start text = some (before, inside ++ behind) :=
      cutAt?_eq_some_iff.2 ⟨by rw [htext, List.append_assoc], hstart⟩
    have hcut' : cutAt? (stop - start) (inside ++ behind)
        = some (inside, behind) :=
      cutAt?_eq_some_iff.2 ⟨rfl, by omega⟩
    unfold cutSpan?
    rw [if_pos (by omega), hcut]
    simp only [hcut']

end ConsoleLinks.Text
