/-
The tokens of a printed document.

They are read off the tree (`Tree.tokens`): the styles of the scalars are
the ones they are printed in, a mapping or a list with something in it has
the tokens of a block around it, and the items of a list behind a key,
which stand in the column of that key, have none. The four parts of the
printer are followed by four theorems, in the same recursion: what stands
behind a key or behind the sign of an item, items, and entries, each read
from its first character to the next token. The column of that token,
never behind the column of the part, is what ends the blocks inside.

From these, the tokens of a whole document are those of its tree
(`tokens?_render`).

Consumed by the reading of printed trees (`Proofs/Yaml/RoundTrip.lean`).
-/
import ConsoleLinks.Proofs.Yaml.Steps

namespace ConsoleLinks.Yaml

open Printer (spaces styleOf behindKey behindDash items entries)

-- ================================================================ tokens

mutual

/-- The tokens of a tree; `loose` says that items need no block of their
own. -/
def Tree.tokens (loose : Bool) : Tree → List Token
  | .text s => [.scalar (styleOf s) s]
  | .bool b => [.scalar .plain (if b then "true" else "false")]
  | .list [] => [.flowSequenceStart, .flowSequenceEnd]
  | .list (item :: rest) =>
    if loose then itemTokens (item :: rest)
    else .blockSequenceStart :: itemTokens (item :: rest) ++ [.blockEnd]
  | .mapping [] => [.flowMappingStart, .flowMappingEnd]
  | .mapping (entry :: rest) =>
    .blockMappingStart :: entryTokens (entry :: rest) ++ [.blockEnd]

/-- The tokens of items. -/
def itemTokens : List Tree → List Token
  | [] => []
  | item :: rest => .blockEntry :: item.tokens false ++ itemTokens rest

/-- The tokens of entries. -/
def entryTokens : List (String × Tree) → List Token
  | [] => []
  | (key, value) :: rest =>
    [.key, .scalar .plain key, .value] ++ value.tokens true ++ entryTokens rest

end

-- ============================================================ first signs

theorem atGap_behindKey (column : Nat) (t : Tree) (behind : List Char) :
    atGap (behindKey column t ++ behind) = true := by
  cases t with
  | text s => rfl
  | bool b => rfl
  | list items => cases items <;> rfl
  | mapping entries => cases entries <;> rfl

theorem atGap_behindDash (column : Nat) (t : Tree) (behind : List Char) :
    atGap (behindDash column t ++ behind) = true := by
  cases t with
  | text s => rfl
  | bool b => rfl
  | list items => cases items <;> rfl
  | mapping entries => cases entries <;> rfl

/-- The sign of the first item is one at which a token can begin. -/
theorem atToken_items (column : Nat) (item : Tree) (rest : List Tree) (behind : List Char) :
    AtToken (items column (item :: rest) ++ behind) := by
  cases rest <;> exact atToken_cons.2 (by decide)

/-- So is the first character of the first key. -/
theorem atToken_entries (column : Nat) {entry : String × Tree} {rest : List (String × Tree)}
    (hkeys : entriesHaveKeys (entry :: rest) = true) (behind : List Char) :
    AtToken (entries column (entry :: rest) ++ behind) := by
  obtain ⟨key, value⟩ := entry
  rw [entriesHaveKeys, Bool.and_eq_true, Bool.and_eq_true] at hkeys
  have hkey := Plain.atToken_of_isKey hkeys.1.1
  cases rest with
  | nil =>
      rw [entries, List.append_assoc]
      exact hkey _
  | cons entry' rest =>
      rw [entries, List.append_assoc, List.append_assoc, List.append_assoc]
      exact hkey _

namespace Outline

variable {o : Outline} {next : List Char} {k : Nat}

-- ============================================================ the printer

mutual

/-- What stands behind a key is read to the next token, which begins in
the column of the key or before it. -/
theorem leads_behindKey (t : Tree) (hkeys : t.hasKeys = true) (o : Outline) (place : Place)
    {column k : Nat} (hmargin : o.margin = column + 1) (hplace : o.margin ≤ place.column)
    (hk : k ≤ column) {next : List Char} (h : AtToken next) :
    ∃ line, Layout.Leads
      (o.layout false place (behindKey column t ++ (spaces k ++ next)))
      ((o.add (t.tokens true)).layout true ⟨line, k⟩ next) := by
  have hinside : o.margin ≤ place.column + 1 := Nat.le_succ_of_le hplace
  have hbefore : k < o.margin := by omega
  have hnested : o.margin ≤ column + 2 := by omega
  have hcolumn : k < column + 2 := by omega
  match t with
  | .text s =>
      obtain ⟨line, hleads⟩ := leads_scalar ⟨place.line, place.column + 1⟩ s hinside hbefore h
      rw [hmargin] at hleads
      exact ⟨line, leads_space.trans hleads⟩
  | .bool b =>
      exact ⟨_, leads_space.trans
        (leads_truth ⟨place.line, place.column + 1⟩ b hinside hbefore h)⟩
  | .list [] =>
      exact ⟨_, leads_space.trans
        (leads_emptyList ⟨place.line, place.column + 1⟩ hinside h)⟩
  | .list (item :: rest) =>
      obtain ⟨line, hleads⟩ := leads_items (item :: rest) (List.cons_ne_nil _ _) hkeys
        o (place.line + 1) column (Nat.le_of_eq hmargin) hk h
      rw [opened_of_lt (by omega)] at hleads
      refine ⟨line, Layout.Leads.trans ?_ hleads⟩
      have htext : behindKey column (.list (item :: rest)) ++ (spaces k ++ next)
          = '\n' :: (spaces column ++ (items column (item :: rest) ++ (spaces k ++ next))) := by
        simp [behindKey]
      rw [htext]
      exact leads_break (atToken_items column item rest _)
  | .mapping [] =>
      exact ⟨_, leads_space.trans
        (leads_emptyMapping ⟨place.line, place.column + 1⟩ hinside h)⟩
  | .mapping (entry :: rest) =>
      obtain ⟨line, hleads⟩ := leads_entries (entry :: rest) (List.cons_ne_nil _ _) hkeys
        o (place.line + 1) (column + 2) (Nat.le_succ_of_le hnested) (Nat.le_of_lt hcolumn) h
      refine ⟨line, Layout.Leads.trans ?_ (hleads.trans
        (leads_close .blockMappingStart _ hnested hcolumn h))⟩
      have htext : behindKey column (.mapping (entry :: rest)) ++ (spaces k ++ next)
          = '\n' :: (spaces (column + 2)
            ++ (entries (column + 2) (entry :: rest) ++ (spaces k ++ next))) := by
        simp [behindKey]
      rw [htext]
      exact leads_break (atToken_entries (column + 2) hkeys _)

/-- What stands behind the sign of an item is read to the next token, which
begins in the column of the sign or before it. -/
theorem leads_behindDash (t : Tree) (hkeys : t.hasKeys = true) (o : Outline) (line : Nat)
    {column k : Nat} (hmargin : o.margin = column + 1) (hk : k ≤ column)
    {next : List Char} (h : AtToken next) :
    ∃ line', Layout.Leads
      (o.layout true ⟨line, column + 1⟩ (behindDash column t ++ (spaces k ++ next)))
      ((o.add (t.tokens false)).layout true ⟨line', k⟩ next) := by
  have hnested : o.margin ≤ column + 2 := by omega
  have hbefore : k < o.margin := by omega
  have hcolumn : k < column + 2 := by omega
  match t with
  | .text s =>
      obtain ⟨line', hleads⟩ := leads_scalar ⟨line, column + 2⟩ s hnested hbefore h
      rw [hmargin] at hleads
      exact ⟨line', leads_space.trans hleads⟩
  | .bool b =>
      exact ⟨_, leads_space.trans (leads_truth ⟨line, column + 2⟩ b hnested hbefore h)⟩
  | .list [] =>
      exact ⟨_, leads_space.trans (leads_emptyList ⟨line, column + 2⟩ hnested h)⟩
  | .list (item :: rest) =>
      obtain ⟨line', hleads⟩ := leads_items (item :: rest) (List.cons_ne_nil _ _) hkeys
        o line (column + 2) (Nat.le_succ_of_le hnested) (Nat.le_of_lt hcolumn) h
      exact ⟨line', leads_space.trans (hleads.trans
        (leads_close .blockSequenceStart _ hnested hcolumn h))⟩
  | .mapping [] =>
      exact ⟨_, leads_space.trans (leads_emptyMapping ⟨line, column + 2⟩ hnested h)⟩
  | .mapping (entry :: rest) =>
      obtain ⟨line', hleads⟩ := leads_entries (entry :: rest) (List.cons_ne_nil _ _) hkeys
        o line (column + 2) (Nat.le_succ_of_le hnested) (Nat.le_of_lt hcolumn) h
      exact ⟨line', leads_space.trans (hleads.trans
        (leads_close .blockMappingStart _ hnested hcolumn h))⟩

/-- Items are read from the first one's sign to the next token. -/
theorem leads_items (ts : List Tree) (hne : ts ≠ []) (hkeys : itemsHaveKeys ts = true)
    (o : Outline) (line column : Nat) {k : Nat} (hmargin : o.margin ≤ column + 1)
    (hk : k ≤ column) {next : List Char} (h : AtToken next) :
    ∃ line', Layout.Leads
      (o.layout true ⟨line, column⟩ (items column ts ++ (spaces k ++ next)))
      (((o.opened column .blockSequenceStart).add (itemTokens ts)).layout true ⟨line', k⟩
        next) := by
  have hopened := margin_opened hmargin .blockSequenceStart
  match ts with
  | [item] =>
      simp only [itemsHaveKeys, Bool.and_true] at hkeys
      have hdash := leads_dash ⟨line, column⟩ hmargin
        (atGap_behindDash column item (spaces k ++ next))
      obtain ⟨line', hleads⟩ := leads_behindDash item hkeys
        ((o.opened column .blockSequenceStart).add [.blockEntry]) line hopened hk h
      refine ⟨line', ?_⟩
      have hall := hdash.trans hleads
      simpa [itemTokens, items] using hall
  | item :: item' :: rest =>
      rw [itemsHaveKeys, Bool.and_eq_true] at hkeys
      have hrest := atToken_items column item' rest (spaces k ++ next)
      have hdash := leads_dash ⟨line, column⟩ hmargin
        (atGap_behindDash column item
          (spaces column ++ (items column (item' :: rest) ++ (spaces k ++ next))))
      obtain ⟨line', hitem⟩ := leads_behindDash item hkeys.1
        ((o.opened column .blockSequenceStart).add [.blockEntry]) line hopened (Nat.le_refl _)
        hrest
      obtain ⟨line'', hleads⟩ := leads_items (item' :: rest) (List.cons_ne_nil _ _) hkeys.2
        ((o.opened column .blockSequenceStart).add ([.blockEntry] ++ item.tokens false))
        line' column (Nat.le_of_eq hopened) hk h
      rw [add_add] at hitem
      rw [opened_of_margin hopened] at hleads
      refine ⟨line'', ?_⟩
      have hall := hdash.trans (hitem.trans hleads)
      simpa [itemTokens, items] using hall

/-- Entries are read from the first one's key to the next token. -/
theorem leads_entries (es : List (String × Tree)) (hne : es ≠ [])
    (hkeys : entriesHaveKeys es = true) (o : Outline) (line column : Nat) {k : Nat}
    (hmargin : o.margin ≤ column + 1) (hk : k ≤ column) {next : List Char}
    (h : AtToken next) :
    ∃ line', Layout.Leads
      (o.layout true ⟨line, column⟩ (entries column es ++ (spaces k ++ next)))
      (((o.opened column .blockMappingStart).add (entryTokens es)).layout true ⟨line', k⟩
        next) := by
  have hopened := margin_opened hmargin .blockMappingStart
  match es with
  | [(key, value)] =>
      simp only [entriesHaveKeys, Bool.and_true, Bool.and_eq_true] at hkeys
      have hkey := leads_key ⟨line, column⟩ hkeys.1 hmargin
        (atGap_behindKey column value (spaces k ++ next))
      obtain ⟨line', hvalue⟩ := leads_behindKey value hkeys.2
        ((o.opened column .blockMappingStart).add [.key, .scalar .plain key, .value])
        ⟨line, column + key.toList.length + 1⟩ hopened (by simp [hopened]) hk h
      refine ⟨line', ?_⟩
      have hall := hkey.trans hvalue
      simpa [entryTokens, entries] using hall
  | (key, value) :: entry :: rest =>
      rw [entriesHaveKeys, Bool.and_eq_true, Bool.and_eq_true] at hkeys
      have hrest := atToken_entries column hkeys.2 (spaces k ++ next)
      have hkey := leads_key ⟨line, column⟩ hkeys.1.1 hmargin
        (atGap_behindKey column value
          (spaces column ++ (entries column (entry :: rest) ++ (spaces k ++ next))))
      obtain ⟨line', hvalue⟩ := leads_behindKey value hkeys.1.2
        ((o.opened column .blockMappingStart).add [.key, .scalar .plain key, .value])
        ⟨line, column + key.toList.length + 1⟩ hopened (by simp [hopened]) (Nat.le_refl _) hrest
      obtain ⟨line'', hleads⟩ := leads_entries (entry :: rest) (List.cons_ne_nil _ _) hkeys.2
        ((o.opened column .blockMappingStart).add
          ([.key, .scalar .plain key, .value] ++ value.tokens true))
        line' column (Nat.le_of_eq hopened) hk h
      rw [add_add] at hvalue
      rw [opened_of_margin hopened] at hleads
      refine ⟨line'', ?_⟩
      have hall := hkey.trans (hvalue.trans hleads)
      simpa [entryTokens, entries] using hall

end

end Outline

-- ========================================================= whole documents

/-- At the end of the text the last block ends. -/
theorem tokensFrom_end (fuel line : Nat) (tokens : List Token) :
    Layout.tokensFrom (fuel + 1) ((Outline.mk tokens 1 [0]).layout true ⟨line, 0⟩ [])
      = some (tokens.reverse ++ [.blockEnd]) := by
  have hready : ((Outline.mk tokens 1 [0]).layout true ⟨line, 0⟩ []).ready?
      = some ((Outline.mk tokens 1 [0]).layout true ⟨line, 0⟩ []) :=
    Layout.ready?_eq_self atToken_nil rfl (Nat.le_refl 1)
  rw [Layout.tokensFrom_succ, hready]
  simp [Outline.layout, Layout.unindent, Layout.inFlow, Layout.endBlocks, Layout.push,
    Layout.dropKey?]

/-- Where a printable text is read to its end as the inside of one mapping,
its tokens are those of the mapping. -/
theorem tokens?_of_leads {text : List Char} (hprintable : Printable text) {tokens : List Token}
    {line : Nat}
    (hleads : Layout.Leads ((Outline.mk [] 0 []).layout true ⟨0, 0⟩ text)
      ((((Outline.mk [] 0 []).opened 0 .blockMappingStart).add tokens).layout true ⟨line, 0⟩ [])) :
    tokens? text = some (.blockMappingStart :: tokens ++ [.blockEnd]) := by
  obtain ⟨steps, hsteps, hleads⟩ := hleads
  have hall : text.all isAllowed = true :=
    List.all_eq_true.2 fun c hc => isAllowed_of_isPrintable (hprintable c hc)
  obtain ⟨fuel, hfuel⟩ : ∃ fuel, text.length + 1 = steps + (fuel + 1) :=
    ⟨text.length - steps, by
      have hlength : steps ≤ text.length := hsteps
      omega⟩
  have hopened : ((Outline.mk [] 0 []).opened 0 .blockMappingStart).add tokens
      = ⟨tokens.reverse ++ [.blockMappingStart], 1, [0]⟩ := rfl
  rw [tokens?, if_pos hall, unifyBreaks_eq_self hprintable]
  show Layout.tokensFrom (text.length + 1) ((Outline.mk [] 0 []).layout true ⟨0, 0⟩ text) = _
  rw [hfuel, hleads, hopened, tokensFrom_end]
  simp

/-- The tokens of a printed mapping are those of the mapping. -/
theorem tokens?_render (entries : List (String × Tree)) (h : entriesHaveKeys entries = true) :
    tokens? (Tree.mapping entries).render = some ((Tree.mapping entries).tokens false) := by
  cases entries with
  | nil => decide
  | cons entry rest =>
      obtain ⟨line, hleads⟩ := Outline.leads_entries (entry :: rest)
        (List.cons_ne_nil _ _) h ⟨[], 0, []⟩ 0 0 (k := 0) (Nat.zero_le _) (Nat.le_refl _)
        atToken_nil
      rw [show spaces 0 ++ ([] : List Char) = [] from rfl, List.append_nil] at hleads
      rw [Tree.render, tokens?_of_leads (Printer.printable_entries (entry :: rest) h 0) hleads,
        Tree.tokens]

end ConsoleLinks.Yaml
