/-
What is printed: the styles that texts are written in, and that every
character of a document is printable, whatever the texts in it are made
of.

A style is chosen for what it can bring back, and `of_styleOf` says for
each what the text is then known to be. The rest is one law for each
function of the printer. Only between double quotes can a text hold
characters that are not printable, and there they are escaped
(`isPrintable_escapeChar`).

Consumed by the tokens of printed scalars (`Proofs/Yaml/Steps.lean`) and
of whole documents (`Proofs/Yaml/Tokens.lean`).
-/
import ConsoleLinks.Proofs.Text.Hex
import ConsoleLinks.Proofs.Yaml.Scalar.Block
import ConsoleLinks.Proofs.Yaml.Scalar.Plain
import ConsoleLinks.Proofs.Yaml.Scalar.Quoted

namespace ConsoleLinks.Yaml

open Printer (isPrintable styleOf spaces)

-- ================================================================= styles

/-- What a style says of the text it is chosen for. -/
theorem of_styleOf (s : String) :
    match styleOf s with
    | .plain => Printer.fitsPlain s.toList = true ∧ s.toList ≠ []
    | .singleQuoted => '\n' ∉ s.toList ∧ Printer.fitsSingle s.toList = true
    | .doubleQuoted => True
    | .literal => s.toList ≠ [] ∧ Printable s.toList
    | .folded => False := by
  unfold styleOf
  by_cases hline : s.toList.contains '\n' = true
  · rw [if_pos hline]
    by_cases hliteral : Printer.fitsLiteral s.toList = true
    · rw [if_pos hliteral]
      rw [Printer.fitsLiteral, Bool.and_eq_true, Bool.not_eq_true'] at hliteral
      refine ⟨fun hnil => ?_, (of_needsEscapes hliteral.1).1⟩
      rw [hnil] at hline
      cases hline
    · rw [if_neg hliteral]
      trivial
  · rw [if_neg hline]
    by_cases hplain : (Printer.fitsPlain s.toList && !Resolution.isAmbiguous s) = true
    · rw [if_pos hplain]
      simp only [Bool.and_eq_true, Bool.not_eq_true'] at hplain
      refine ⟨hplain.1, fun hnil => ?_⟩
      obtain rfl : s = "" := String.toList_eq_nil_iff.1 hnil
      have hambiguous := hplain.2
      revert hambiguous
      decide
    · rw [if_neg hplain]
      by_cases hsingle : Printer.fitsSingle s.toList = true
      · rw [if_pos hsingle]
        exact ⟨by simpa using hline, hsingle⟩
      · rw [if_neg hsingle]
        trivial

/-- A word; texts that without quotes would be read as nothing or as a
mapping; one that cannot be printed, and one of two lines. -/
example : ["java", "null", "a: b", "", "bell\x07", "two\nlines"].map styleOf
    = [.plain, .singleQuoted, .singleQuoted, .singleQuoted, .doubleQuoted, .literal] := by
  decide +kernel

-- =================================================================== keys

mutual

/-- Whether every key in a tree is a word. -/
def Tree.hasKeys : Tree → Bool
  | .text _ | .bool _ => true
  | .list items => itemsHaveKeys items
  | .mapping entries => entriesHaveKeys entries

/-- The same of the items of a list. -/
def itemsHaveKeys : List Tree → Bool
  | [] => true
  | item :: rest => item.hasKeys && itemsHaveKeys rest

/-- The same of the entries of a mapping. -/
def entriesHaveKeys : List (String × Tree) → Bool
  | [] => true
  | (key, value) :: rest => Plain.isKey key && value.hasKeys && entriesHaveKeys rest

end

-- ================================================================ scalars

namespace Printer

theorem printable_spaces (n : Nat) : Printable (spaces n) := by
  intro c hc
  rw [List.eq_of_mem_replicate hc]
  decide

theorem printable_single {text : List Char} (h : Printable text) (indent : Nat)
    (afterBreak : Bool) : Printable (single indent afterBreak text) := by
  induction text generalizing afterBreak with
  | nil =>
      rw [single]
      split
      next => exact printable_spaces indent
      next => exact printable_nil
  | cons c rest ih =>
      obtain ⟨hc, hrest⟩ := printable_cons.1 h
      rw [single]
      split
      next => exact printable_cons.2 ⟨hc, ih hrest true⟩
      next =>
        refine printable_append.2 ⟨printable_append.2 ⟨?_, ?_⟩, ih hrest false⟩
        · split
          next => exact printable_spaces indent
          next => exact printable_nil
        · split
          next => exact printable_cons.2 ⟨by decide, printable_cons.2 ⟨by decide, printable_nil⟩⟩
          next => exact printable_cons.2 ⟨hc, printable_nil⟩

theorem printable_literalLines {text : List Char} (h : Printable text) (indent : Nat)
    (afterBreak : Bool) : Printable (literalLines indent afterBreak text) := by
  induction text generalizing afterBreak with
  | nil => exact printable_nil
  | cons c rest ih =>
      obtain ⟨hc, hrest⟩ := printable_cons.1 h
      rw [literalLines]
      split
      next => exact printable_cons.2 ⟨hc, ih hrest true⟩
      next =>
        refine printable_append.2 ⟨?_, printable_cons.2 ⟨hc, ih hrest false⟩⟩
        split
        next => exact printable_spaces indent
        next => exact printable_nil

theorem printable_literalHints (text : List Char) : Printable (literalHints text) := by
  rw [Block.literalHints_eq]
  refine printable_append.2 ⟨?_, ?_⟩
  · cases Block.hidesColumn text <;> decide
  · cases Block.chompingOf text.reverse <;> decide

/-- The letters of short escapes are printable. -/
theorem isPrintable_of_shortEscape? {c letter : Char} (h : shortEscape? c = some letter) :
    isPrintable letter = true := by
  unfold shortEscape? at h
  split at h <;> first | cases h; decide | cases h

theorem printable_fixed (width n : Nat) : Printable (Text.Hex.fixed Text.Hex.upper width n) := by
  have hdigit : ∀ d < 16, isPrintable (Text.Hex.upper d) = true := by decide
  intro c hc
  obtain ⟨d, hd, rfl⟩ := Text.Hex.exists_of_mem_fixed hc
  exact hdigit d hd

/-- A character is printable as it stands between double quotes. -/
theorem printable_escapeChar (c : Char) : Printable (escapeChar c) := by
  have hbegin (letter : Char) (hletter : isPrintable letter = true) (code : List Char)
      (hcode : Printable code) : Printable ('\\' :: letter :: code) :=
    printable_cons.2 ⟨by decide, printable_cons.2 ⟨hletter, hcode⟩⟩
  unfold escapeChar
  split
  next letter hshort => exact hbegin letter (isPrintable_of_shortEscape? hshort) [] printable_nil
  next =>
    split
    next hc => exact printable_cons.2 ⟨hc, printable_nil⟩
    next =>
      dsimp only
      split
      next => exact hbegin 'x' (by decide) _ (printable_fixed 2 c.toNat)
      next =>
        split
        next => exact hbegin 'u' (by decide) _ (printable_fixed 4 c.toNat)
        next => exact hbegin 'U' (by decide) _ (printable_fixed 8 c.toNat)

/-- A text is printable in the style it is written in. -/
theorem printable_scalar (indent : Nat) (s : String) : Printable (scalar indent s) := by
  have hstyle := of_styleOf s
  unfold scalar
  cases hs : styleOf s with
  | plain =>
      rw [hs] at hstyle
      exact printable_append.2 ⟨(Plain.words_of_fitsPlain hstyle.1).printable, by decide⟩
  | singleQuoted =>
      rw [hs] at hstyle
      have htext := (Quoted.fits_of_fitsSingle hstyle.1 hstyle.2).printable
      exact printable_append.2 ⟨printable_cons.2 ⟨by decide, printable_single htext indent false⟩,
        by decide⟩
  | doubleQuoted =>
      have htext : Printable (s.toList.flatMap escapeChar) := by
        intro c hc
        obtain ⟨d, -, hd⟩ := List.mem_flatMap.1 hc
        exact printable_escapeChar d c hd
      exact printable_append.2 ⟨printable_cons.2 ⟨by decide, htext⟩, by decide⟩
  | literal =>
      rw [hs] at hstyle
      have hhead : Printable (['|'] ++ literalHints s.toList ++ ['\n']) :=
        printable_append.2 ⟨printable_cons.2 ⟨by decide, printable_literalHints _⟩, by decide⟩
      refine printable_append.2 ⟨printable_append.2
        ⟨hhead, printable_literalLines hstyle.2 indent true⟩, ?_⟩
      split
      next => exact printable_nil
      next => decide
  | folded =>
      rw [hs] at hstyle
      exact hstyle.elim

theorem printable_truth (b : Bool) : Printable (truth b) := by
  cases b <;> decide

-- ================================================================== trees

theorem printable_key {key : String} (h : Plain.isKey key = true) : Printable key.toList :=
  fun c hc => (Plain.isPrintable_of_isKeyChar (Plain.isKeyChar_of_isKey h c hc)).1

mutual

theorem printable_behindKey (t : Tree) (h : t.hasKeys = true) (column : Nat) :
    Printable (behindKey column t) := by
  match t with
  | .text s => exact printable_cons.2 ⟨by decide, printable_scalar _ s⟩
  | .bool b => exact printable_cons.2 ⟨by decide, printable_truth b⟩
  | .list [] => exact (by decide : Printable " []\n".toList)
  | .list (item :: rest) =>
      exact printable_append.2 ⟨printable_cons.2 ⟨by decide, printable_spaces column⟩,
        printable_items (item :: rest) h column⟩
  | .mapping [] => exact (by decide : Printable " \x7b\x7d\n".toList)
  | .mapping (entry :: rest) =>
      exact printable_append.2 ⟨printable_cons.2 ⟨by decide, printable_spaces (column + 2)⟩,
        printable_entries (entry :: rest) h (column + 2)⟩

theorem printable_behindDash (t : Tree) (h : t.hasKeys = true) (column : Nat) :
    Printable (behindDash column t) := by
  match t with
  | .text s => exact printable_cons.2 ⟨by decide, printable_scalar _ s⟩
  | .bool b => exact printable_cons.2 ⟨by decide, printable_truth b⟩
  | .list [] => exact (by decide : Printable " []\n".toList)
  | .list (item :: rest) =>
      exact printable_cons.2 ⟨by decide, printable_items (item :: rest) h (column + 2)⟩
  | .mapping [] => exact (by decide : Printable " \x7b\x7d\n".toList)
  | .mapping (entry :: rest) =>
      exact printable_cons.2 ⟨by decide, printable_entries (entry :: rest) h (column + 2)⟩

theorem printable_items (ts : List Tree) (h : itemsHaveKeys ts = true) (column : Nat) :
    Printable (items column ts) := by
  match ts with
  | [] => exact printable_nil
  | item :: rest =>
      rw [itemsHaveKeys, Bool.and_eq_true] at h
      have hitem : Printable ('-' :: behindDash column item) :=
        printable_cons.2 ⟨by decide, printable_behindDash item h.1 column⟩
      have hrest := printable_items rest h.2 column
      cases rest with
      | nil => exact hitem
      | cons item' rest =>
          exact printable_append.2
            ⟨printable_append.2 ⟨hitem, printable_spaces column⟩, hrest⟩

theorem printable_entries (es : List (String × Tree)) (h : entriesHaveKeys es = true)
    (column : Nat) : Printable (entries column es) := by
  match es with
  | [] => exact printable_nil
  | (key, value) :: rest =>
      rw [entriesHaveKeys, Bool.and_eq_true, Bool.and_eq_true] at h
      have hentry : Printable (key.toList ++ ':' :: behindKey column value) :=
        printable_append.2 ⟨printable_key h.1.1,
          printable_cons.2 ⟨by decide, printable_behindKey value h.1.2 column⟩⟩
      have hrest := printable_entries rest h.2 column
      cases rest with
      | nil => exact hentry
      | cons entry rest =>
          exact printable_append.2
            ⟨printable_append.2 ⟨hentry, printable_spaces column⟩, hrest⟩

end

end Printer

end ConsoleLinks.Yaml
