/-
Pieces between separators, both ways: `pieces` takes a text apart at each
separator, and the pieces joined again are the text. Qualified names, the
lines of a stream and the lines of a log record are all read with
`pieces`, so their proofs start from the two equations for one separator
(`pieces_append_separator`) and none (`pieces_of_not_mem`).
-/
import ConsoleLinks.Text.Scan

namespace ConsoleLinks.Text

variable {α : Type} {separator : α}

/-- Each piece with the separator behind it. -/
def ended (separator : α) (parts : List (List α)) : List α :=
  parts.flatMap (· ++ [separator])

theorem ended_cons (part : List α) (parts : List (List α)) :
    ended separator (part :: parts)
      = part ++ separator :: ended separator parts := by
  unfold ended
  rw [List.flatMap_cons, List.append_assoc]
  rfl

/-- What occurs in ended parts is the separator or occurs in a part. -/
theorem eq_or_exists_of_mem_ended {parts : List (List α)} {a : α}
    (h : a ∈ ended separator parts) : a = separator ∨ ∃ part ∈ parts, a ∈ part := by
  obtain ⟨part, hpart, ha⟩ := List.mem_flatMap.1 h
  rcases List.mem_append.1 ha with ha | ha
  · exact .inr ⟨part, hpart, ha⟩
  · exact .inl (List.mem_singleton.1 ha)

variable [DecidableEq α]

/-- A text without the separator is its own only piece. -/
theorem pieces_of_not_mem {text : List α} (h : separator ∉ text) :
    pieces separator text = [text] := by
  induction text with
  | nil => rfl
  | cons a text ih =>
      have ha : a ≠ separator := fun heq => h (heq ▸ List.mem_cons_self ..)
      have htext : separator ∉ text := fun hmem => h (List.mem_cons_of_mem a hmem)
      rw [pieces_cons, ih htext, consPiece, if_neg ha]

/-- The first piece ends at the first separator. -/
theorem pieces_append_separator {part : List α} (h : separator ∉ part)
    (rest : List α) :
    pieces separator (part ++ separator :: rest)
      = part :: pieces separator rest := by
  induction part with
  | nil =>
      rw [List.nil_append, pieces_cons]
      cases hrest : pieces separator rest with
      | nil => exact absurd hrest (pieces_ne_nil separator rest)
      | cons p ps => simp [consPiece]
  | cons a part ih =>
      have ha : a ≠ separator := fun heq => h (heq ▸ List.mem_cons_self ..)
      have hpart : separator ∉ part := fun hmem => h (List.mem_cons_of_mem a hmem)
      rw [List.cons_append, pieces_cons, ih hpart, consPiece, if_neg ha]

/-- No piece holds the separator. -/
theorem not_mem_of_mem_pieces {text part : List α}
    (h : part ∈ pieces separator text) : separator ∉ part := by
  induction text generalizing part with
  | nil =>
      rw [pieces_nil, List.mem_singleton] at h
      rw [h]
      exact List.not_mem_nil
  | cons a text ih =>
      rw [pieces_cons] at h
      cases hpieces : pieces separator text with
      | nil => exact absurd hpieces (pieces_ne_nil separator text)
      | cons p ps =>
          rw [hpieces] at h ih
          have hp : separator ∉ p := ih (List.mem_cons_self ..)
          rw [consPiece] at h
          split at h
          next =>
            rcases List.mem_cons.1 h with rfl | h
            · exact List.not_mem_nil
            · exact ih h
          next ha =>
            rcases List.mem_cons.1 h with rfl | h
            · intro hmem
              rcases List.mem_cons.1 hmem with heq | hmem
              · exact ha heq.symm
              · exact hp hmem
            · exact ih (List.mem_cons_of_mem p h)

/-- There is a last piece, and perhaps some before it. -/
theorem exists_eq_concat_pieces (separator : α) (text : List α) :
    ∃ parts last, pieces separator text = parts ++ [last] := by
  rcases List.eq_nil_or_concat (pieces separator text) with hnil | ⟨parts, last, h⟩
  · exact absurd hnil (pieces_ne_nil separator text)
  · exact ⟨parts, last, by rw [h, List.concat_eq_append]⟩

/-- Parts that hold no separator are found again. -/
theorem pieces_ended_append {parts : List (List α)} {last : List α}
    (hparts : ∀ part ∈ parts, separator ∉ part) (hlast : separator ∉ last) :
    pieces separator (ended separator parts ++ last) = parts ++ [last] := by
  induction parts with
  | nil => exact pieces_of_not_mem hlast
  | cons part parts ih =>
      have hpart := hparts part (List.mem_cons_self ..)
      rw [ended_cons, List.append_assoc, List.cons_append,
        pieces_append_separator hpart,
        ih fun p hp => hparts p (List.mem_cons_of_mem part hp)]
      rfl

/-- The pieces of a text, all but the last ended by the separator, are
the text. -/
theorem ended_append_of_pieces {text : List α} {parts : List (List α)}
    {last : List α} (h : pieces separator text = parts ++ [last]) :
    ended separator parts ++ last = text := by
  induction text generalizing parts last with
  | nil =>
      have hnil : [] ++ [[]] = parts ++ [last] := h
      obtain ⟨hparts, hlast⟩ := List.append_inj' hnil rfl
      injection hlast with hlast _
      rw [← hparts, ← hlast]
      rfl
  | cons a text ih =>
      rw [pieces_cons] at h
      cases hpieces : pieces separator text with
      | nil => exact absurd hpieces (pieces_ne_nil separator text)
      | cons p ps =>
          rw [hpieces, consPiece] at h
          split at h
          next ha =>
            cases parts with
            | nil => cases h
            | cons part parts =>
                injection h with hpart hrest
                rw [ended_cons, ← hpart, List.nil_append, List.cons_append,
                  ih (hpieces.trans hrest), ha]
          next ha =>
            cases parts with
            | nil =>
                injection h with hlast hps
                have htext : ended separator [] ++ p = text :=
                  ih (by rw [hpieces, hps]; rfl)
                rw [← hlast, ← htext]
                rfl
            | cons part parts =>
                injection h with hpart hrest
                have htext : ended separator (p :: parts) ++ last = text :=
                  ih (by rw [hpieces, hrest]; rfl)
                rw [ended_cons] at htext
                rw [ended_cons, ← hpart, ← htext]
                rfl

end ConsoleLinks.Text
