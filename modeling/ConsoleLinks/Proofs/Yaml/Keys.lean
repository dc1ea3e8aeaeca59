/-
Keys in the forms that other writers give them.

The printer writes a key as it is, which is right for the names of fields.
A word in general may be one that means something else without quotes, or
longer than a key can be whose colon follows on its line. So a key is a
word in one of three forms (`Key`): as it is, between single quotes, or
behind the sign of a key, where it is written like any other text and has
its colon on the next line.

In every form the key and its colon are read as the same three tokens, up
to the style of the scalar (`leads_key_text`). Only behind the sign of a
key may another key begin right behind the colon (`Key.opens`).

Consumed by the blocks that hold such entries (`Proofs/Yaml/Blocks.lean`).
-/
import ConsoleLinks.Proofs.Yaml.Steps

namespace ConsoleLinks.Yaml

open Printer (spaces styleOf)

-- ================================================================== keys

/-- How a key is written. -/
inductive KeyForm where
  | plain
  | quoted
  /-- Behind the sign of a key, its colon on the next line. -/
  | explicit
deriving DecidableEq, Repr

/-- How many quotes stand around a key. -/
def KeyForm.quotes : KeyForm → Nat
  | .quoted => 2
  | .plain | .explicit => 0

/-- A word as a key. Where the colon follows on its line it is no longer
than a key can be. -/
structure Key where
  word : String
  form : KeyForm
  nonempty : word.toList ≠ []
  isWord : ∀ c ∈ word.toList, Plain.isKeyChar c = true
  fits : form ≠ .explicit → word.toList.length + form.quotes ≤ Layout.longestKey
deriving DecidableEq

namespace Key

/-- A name of a field, as the printer writes it. -/
def ofName (name : String) (h : Plain.isKey name = true) : Key where
  word := name
  form := .plain
  nonempty hnil := by simp [Plain.isKey, hnil] at h
  isWord := Plain.isKeyChar_of_isKey h
  fits _ := by
    simp only [Plain.isKey, Bool.and_eq_true, decide_eq_true_eq] at h
    exact h.2

/-- The text in front of the colon, for a key in a column. -/
def text (column : Nat) (k : Key) : List Char :=
  match k.form with
  | .plain => k.word.toList
  | .quoted => '\'' :: (k.word.toList ++ ['\''])
  | .explicit => '?' :: ' ' :: (Printer.scalar (column + 2) k.word ++ spaces column)

/-- The style that the key is read in. -/
def style (k : Key) : ScalarStyle :=
  match k.form with
  | .plain => .plain
  | .quoted => .singleQuoted
  | .explicit => styleOf k.word

/-- Whether another key may begin right behind the colon. -/
def opens (k : Key) : Bool := k.form = .explicit

/-- A word begins with a character of words. -/
theorem exists_cons (k : Key) :
    ∃ c rest, k.word.toList = c :: rest ∧ Plain.isKeyChar c = true := by
  cases hword : k.word.toList with
  | nil => exact absurd hword k.nonempty
  | cons c rest => exact ⟨c, rest, rfl, k.isWord c (by simp [hword])⟩

theorem printable_word (k : Key) : Printable k.word.toList :=
  fun c hc => (Plain.isPrintable_of_isKeyChar (k.isWord c hc)).1

theorem printable_text (column : Nat) (k : Key) : Printable (k.text column) := by
  unfold text
  cases k.form with
  | plain => exact k.printable_word
  | quoted =>
      exact printable_cons.2 ⟨by decide, printable_append.2 ⟨k.printable_word, by decide⟩⟩
  | explicit =>
      exact printable_cons.2 ⟨by decide, printable_cons.2 ⟨by decide, printable_append.2
        ⟨Printer.printable_scalar _ _, Printer.printable_spaces column⟩⟩⟩

/-- A token begins where a key does. -/
theorem atToken_text (column : Nat) (k : Key) (behind : List Char) :
    AtToken (k.text column ++ behind) := by
  unfold text
  cases k.form with
  | plain =>
      obtain ⟨c, rest, hword, hc⟩ := k.exists_cons
      rw [hword]
      exact Plain.atToken_of_isKeyChar hc _
  | quoted => exact atToken_cons.2 (by decide)
  | explicit => exact atToken_cons.2 (by decide)

end Key

-- =============================================================== reading

/-- A word between single quotes is read to the closing one. -/
theorem Quoted.scanSingle_word {text : List Char}
    (hword : ∀ c ∈ text, Plain.isKeyChar c = true) (read : List Char) (place : Place)
    (hplace : 0 < place.column) (rest : List Char) (hrest : rest.head? ≠ some '\'') :
    scanSingle {} read place (text ++ '\'' :: rest)
      = some (read.reverse ++ text, ⟨⟨place.line, place.column + text.length + 1⟩, rest⟩) := by
  induction text generalizing read place with
  | nil =>
      rw [List.nil_append, scanSingle_end hplace hrest, Place.next_of_not_isBreak _ (by decide)]
      simp [Gap.onto, Gap.text]
  | cons c text ih =>
      have hc := hword c List.mem_cons_self
      have hne := (Plain.isPrintable_of_isKeyChar hc).2
      have hbreak := (Plain.words_of_isKeyChar hword).unbroken c List.mem_cons_self
      have hblank : isBlank c = false := by
        simp [isBlank, hne ' ' (by decide), hne '\t' (by decide)]
      rw [List.cons_append, scanSingle_cons (hne '\'' (by decide)),
        if_neg (by simp [hblank, hbreak]), if_neg (by simp [Nat.ne_of_gt hplace]),
        Place.next_of_not_isBreak _ hbreak,
        ih (fun d hd => hword d (List.mem_cons_of_mem c hd)) _ _ (Nat.succ_pos _)]
      simp [Gap.onto, Gap.text]
      omega

namespace Outline

variable {o : Outline}

/-- The sign of a key, which begins a block where it stands inside the
last. -/
theorem leads_sign (place : Place) (hmargin : o.margin ≤ place.column + 1) {rest : List Char}
    (hgap : atGap rest = true) :
    Layout.Leads (o.layout true place ('?' :: rest))
      (((o.opened place.column .blockMappingStart).add [.key]).layout true
        ⟨place.line, place.column + 1⟩ rest) := by
  have hdispatch : (o.layout true place ('?' :: rest)).token '?' rest
      = (o.layout true place ('?' :: rest)).explicitKey := by
    simp [Layout.token, isMark_of_ne, hgap]
  have hkey : (o.layout true place ('?' :: rest)).explicitKey
      = some (((o.opened place.column .blockMappingStart).add [.key]).layout true
          ⟨place.line, place.column + 1⟩ rest) := by
    by_cases hinside : place.column < o.margin
    · rw [opened_of_lt hinside]
      simp [Layout.explicitKey, layout, Layout.inFlow, Layout.indent, Layout.column, hinside,
        Layout.dropKey?, Layout.push, Layout.skip, Cursor.skipMany, Place.next, isBreak, add]
    · simp [Layout.explicitKey, layout, Layout.inFlow, Layout.indent, Layout.column, hinside,
        Layout.dropKey?, Layout.push, Layout.skip, Cursor.skipMany, Place.next, isBreak, add,
        opened, Layout.insert]
  exact leads_of_token (atToken_cons.2 (by decide)) hmargin (hdispatch.trans hkey)
    (Nat.le_refl _)

/-- The colon at the front of a line inside the block. -/
theorem leads_value (place : Place) (hmargin : o.margin = place.column + 1) {rest : List Char}
    (hgap : atGap rest = true) :
    Layout.Leads (o.layout true place (':' :: rest))
      ((o.add [.value]).layout true ⟨place.line, place.column + 1⟩ rest) := by
  have hvalue : (o.layout true place (':' :: rest)).value
      = some ((o.add [.value]).layout true ⟨place.line, place.column + 1⟩ rest) := by
    simp [Layout.value, layout, Layout.inFlow, Layout.indent, Layout.column, hmargin,
      Layout.push, Layout.skip, Cursor.skipMany, Place.next, isBreak, add]
  exact leads_of_token (atToken_cons.2 (by decide)) (Nat.le_of_eq hmargin)
    ((token_colon _ hgap).trans hvalue) (Nat.le_refl _)

/-- A key between quotes, with its colon. -/
theorem leads_quotedKey (place : Place) {key : String}
    (hword : ∀ c ∈ key.toList, Plain.isKeyChar c = true)
    (hlength : key.toList.length + 2 ≤ Layout.longestKey)
    (hmargin : o.margin ≤ place.column + 1) {rest : List Char} (hgap : atGap rest = true) :
    Layout.Leads (o.layout true place ('\'' :: (key.toList ++ '\'' :: ':' :: rest)))
      (((o.opened place.column .blockMappingStart).add
        [.key, .scalar .singleQuoted key, .value]).layout false
          ⟨place.line, place.column + (key.toList.length + 2) + 1⟩ rest) := by
  have hscan := Quoted.scanSingle_word hword [] (place.next '\'') (Nat.succ_pos _)
    (':' :: rest) (by simp)
  have hscalar : (o.layout true place ('\'' :: (key.toList ++ '\'' :: ':' :: rest))).quotedScalar
      .singleQuoted = _ := quotedScalar_layout true '\'' ((if_pos rfl).trans hscan)
  have hend : (place.next '\'').column + key.toList.length + 1
      = place.column + (key.toList.length + 2) := by
    show place.column + 1 + key.toList.length + 1 = _
    omega
  rw [List.reverse_nil, List.nil_append, String.ofList_toList, hend] at hscalar
  refine Layout.Leads.trans ?_ (leads_colon place .singleQuoted key hlength hmargin hgap)
  apply leads_of_token (atToken_cons.2 (by decide)) hmargin ((token_single _ _).trans hscalar)
  simp [layout]
  omega

/-- A text in a block that begins in a column, to the next token. -/
theorem leads_scalar_inside (keyAllowed : Bool) (place : Place) (s : String) {column k : Nat}
    (hmargin : o.margin = column + 1) (hplace : column < place.column) (hk : k ≤ column)
    {next : List Char} (h : AtToken next) :
    ∃ line, Layout.Leads
      (o.layout keyAllowed place (Printer.scalar (column + 2) s ++ (spaces k ++ next)))
      ((o.add [.scalar (styleOf s) s]).layout true ⟨line, k⟩ next) := by
  rw [show column + 2 = o.margin + 1 by rw [hmargin]]
  exact leads_scalar place s (by omega) (by omega) h

/-- A key behind its sign, with the colon on the next line. -/
theorem leads_explicitKey (line : Nat) {column : Nat} (key : String)
    (hmargin : o.margin ≤ column + 1) {rest : List Char} (hgap : atGap rest = true) :
    ∃ line', Layout.Leads
      (o.layout true ⟨line, column⟩
        ('?' :: ' ' :: (Printer.scalar (column + 2) key ++ (spaces column ++ ':' :: rest))))
      (((o.opened column .blockMappingStart).add
        [.key, .scalar (styleOf key) key, .value]).layout true ⟨line', column + 1⟩ rest) := by
  have hopened := margin_opened hmargin .blockMappingStart
  obtain ⟨line', hscalar⟩ := leads_scalar_inside
    (o := (o.opened column .blockMappingStart).add [.key]) true ⟨line, column + 2⟩ key hopened
    (Nat.lt_add_of_pos_right Nat.two_pos) (Nat.le_refl column)
    (atToken_cons.2 (by decide) : AtToken (':' :: rest))
  rw [add_add] at hscalar
  have hcolon := leads_value
    (o := (o.opened column .blockMappingStart).add ([.key] ++ [.scalar (styleOf key) key]))
    ⟨line', column⟩ hopened hgap
  rw [add_add] at hcolon
  exact ⟨line', (leads_sign ⟨line, column⟩ hmargin (by rfl)).trans
    (leads_space.trans (hscalar.trans hcolon))⟩

/-- A key in any form, with its colon, begins a block where it stands inside
the last. -/
theorem leads_key_text (k : Key) (line : Nat) {column : Nat} (hmargin : o.margin ≤ column + 1)
    {rest : List Char} (hgap : atGap rest = true) :
    ∃ place : Place, column < place.column ∧ Layout.Leads
      (o.layout true ⟨line, column⟩ (k.text column ++ ':' :: rest))
      (((o.opened column .blockMappingStart).add
        [.key, .scalar k.style k.word, .value]).layout k.opens place rest) := by
  unfold Key.text Key.style Key.opens
  cases hform : k.form with
  | plain =>
      have hkey : Plain.isKey k.word = true := by
        have hlength := k.fits (by simp [hform])
        rw [hform] at hlength
        simp only [Plain.isKey, Bool.and_eq_true, Bool.not_eq_true', List.isEmpty_eq_false_iff,
          List.all_eq_true, decide_eq_true_eq]
        exact ⟨⟨k.nonempty, k.isWord⟩, hlength⟩
      refine ⟨_, ?_, leads_key ⟨line, column⟩ hkey hmargin hgap⟩
      show column < column + k.word.toList.length + 1
      omega
  | quoted =>
      have hlength := k.fits (by simp [hform])
      rw [hform] at hlength
      have hkey := leads_quotedKey ⟨line, column⟩ k.isWord hlength hmargin hgap
      refine ⟨_, ?_, by simpa using hkey⟩
      show column < column + (k.word.toList.length + 2) + 1
      omega
  | explicit =>
      obtain ⟨line', hkey⟩ := leads_explicitKey line k.word hmargin hgap
      exact ⟨⟨line', column + 1⟩, Nat.lt_succ_self column, by simpa using hkey⟩

end Outline

end ConsoleLinks.Yaml
