/-
The characters between which a printed document is read: which of them
are printed as themselves, what a step over one does to a place, and where
a token can begin.

A printed document holds printable characters and nothing else, and to
such a text the first thing a reader does, to refuse some characters and
to unify the line breaks, does nothing (`isAllowed_of_isPrintable`,
`unifyBreaks_eq_self`). Of the printable characters only the space is a
blank.

Consumed by every module about printing and reading back: those of the
scalars (`Proofs/Yaml/Scalar/`) and of the tokens (`Proofs/Yaml/Steps.lean`).
-/
import ConsoleLinks.Yaml.Gap
import ConsoleLinks.Yaml.Place
import ConsoleLinks.Yaml.Printer

namespace ConsoleLinks.Yaml

open Printer (isPrintable needsEscapes hasSpaceBeforeBreak spaces)

-- ================================================== printable characters

theorem isAllowed_of_isPrintable {c : Char} (h : isPrintable c = true) :
    isAllowed c = true := by
  simp only [isPrintable, isAllowed, Bool.or_eq_true, Bool.and_eq_true,
    decide_eq_true_eq] at *
  omega

theorem ne_of_isPrintable {c d : Char} (h : isPrintable c = true)
    (hd : isPrintable d = false) : c ≠ d := by
  intro hcd
  rw [hcd, hd] at h
  cases h

/-- A text of printable characters. -/
def Printable (text : List Char) : Prop := ∀ c ∈ text, isPrintable c = true

instance (text : List Char) : Decidable (Printable text) :=
  decidable_of_iff (text.all isPrintable = true) List.all_eq_true

theorem printable_nil : Printable [] := fun _ hc => absurd hc List.not_mem_nil

theorem printable_cons {c : Char} {rest : List Char} :
    Printable (c :: rest) ↔ isPrintable c = true ∧ Printable rest :=
  List.forall_mem_cons

theorem printable_append {front behind : List Char} :
    Printable (front ++ behind) ↔ Printable front ∧ Printable behind :=
  List.forall_mem_append

/-- What needs no escapes is printable, and has no blank in front of a
break. -/
theorem of_needsEscapes {text : List Char} (h : needsEscapes text = false) :
    Printable text ∧ hasSpaceBeforeBreak text = false := by
  rw [needsEscapes, Bool.or_eq_false_iff, Bool.not_eq_false', List.all_eq_true] at h
  exact h

/-- The only printable blank is the space. -/
theorem isBlank_eq_of_isPrintable {c : Char} (h : isPrintable c = true) :
    isBlank c = decide (c = ' ') := by
  have htab := ne_of_isPrintable (d := '\t') h (by decide)
  simp [isBlank, htab]

/-- Line breaks that are printed are unified already. -/
theorem unifyBreaks_eq_self {text : List Char} (h : Printable text) :
    unifyBreaks text = text := by
  induction text with
  | nil => rfl
  | cons c rest ih =>
      have hc := h c List.mem_cons_self
      have hreturn := ne_of_isPrintable (d := '\r') hc (by decide)
      have hnextLine := ne_of_isPrintable (d := '\u0085') hc (by decide)
      rw [unifyBreaks, ih fun d hd => h d (List.mem_cons_of_mem c hd)]
      · simp [hreturn, hnextLine]
      · intro _ hc'
        exact absurd hc' hreturn

-- ================================================================= places

theorem isBlank_space : isBlank ' ' = true := by decide

theorem isBreak_space : isBreak ' ' = false := by decide

variable {c : Char}

/-- Within a line a step goes one column on. -/
theorem Place.next_of_not_isBreak (p : Place) (h : isBreak c = false) :
    p.next c = ⟨p.line, p.column + 1⟩ := by
  simp [Place.next, h]

/-- A step over a break goes to the front of the next line. -/
theorem Place.next_of_isBreak (p : Place) (h : isBreak c = true) :
    p.next c = ⟨p.line + 1, 0⟩ := by
  simp [Place.next, h]

theorem Place.next_space (p : Place) : p.next ' ' = ⟨p.line, p.column + 1⟩ := rfl

theorem Place.next_newline (p : Place) : p.next '\n' = ⟨p.line + 1, 0⟩ := rfl

/-- The cursor moves over the front of its text. -/
theorem Cursor.skipMany_append (p : Place) (front behind : List Char) :
    Cursor.skipMany ⟨p, front ++ behind⟩ front.length
      = ⟨front.foldl Place.next p, behind⟩ := by
  simp [Cursor.skipMany]

-- =================================================================== gaps

/-- What a text goes on with does not matter where a gap in it does. -/
theorem atGap_append {text : List Char} (h : text ≠ []) (behind : List Char) :
    atGap (text ++ behind) = atGap text := by
  cases text with
  | nil => exact absurd rfl h
  | cons c rest => rfl

theorem spaces_succ (n : Nat) : spaces (n + 1) = ' ' :: spaces n := rfl

/-- A text at which a token can begin: it is at its end, or its first
character is none that is passed over between tokens. -/
def AtToken (text : List Char) : Prop :=
  ∀ c ∈ text.head?, isBlank c = false ∧ isBreak c = false ∧ c ≠ '#' ∧ c ≠ byteOrderMark

theorem atToken_nil : AtToken [] := fun c hc => by cases hc

theorem atToken_cons {rest : List Char} :
    AtToken (c :: rest)
      ↔ isBlank c = false ∧ isBreak c = false ∧ c ≠ '#' ∧ c ≠ byteOrderMark := by
  simp [AtToken]

end ConsoleLinks.Yaml
