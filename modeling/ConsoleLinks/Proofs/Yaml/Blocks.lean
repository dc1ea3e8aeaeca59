/-
Texts that stand in a column of a document, and the nodes they are read
as.

A text is laid out from parts: rows one below the other in a column, each
an entry of a mapping or an item of a list, and behind the colon of a key
or the sign of an item again such a text. What a part is read as takes two
steps, the tokens that it is scanned to and the nodes that these are parsed
to. The tokens are of no interest to anything else, so a part is described
by its text and its nodes alone (`Rows.Read`, `Behind`), and there is one
lemma for each way to put parts together.

The two kinds of rows differ in little more than the function that
collects them, so what is said of rows one below the other is said once
(`Rows.Read.append`, `Rows.Read.stacked`).

Consumed by files that show some of the fields of a record
(`Proofs/Yaml/Excerpt.lean`).
-/
import ConsoleLinks.Proofs.Yaml.Keys
import ConsoleLinks.Proofs.Yaml.RoundTrip

namespace ConsoleLinks.Yaml

open Node (Handles Names Rest endsBlockPart)
open Printer (spaces styleOf behindKey)

-- =============================================================== scanning

/-- A text in a column, in a block that begins there, is scanned to some
tokens and to the next token, which does not lie inside the block. -/
def Scans (start : Token) (column : Nat) (text : List Char) (tokens : List Token) : Prop :=
  ∀ (o : Outline) (line : Nat) {k : Nat} {next : List Char}, o.margin ≤ column + 1 →
    k ≤ column → AtToken next →
    ∃ line', Layout.Leads (o.layout true ⟨line, column⟩ (text ++ (spaces k ++ next)))
      (((o.opened column start).add tokens).layout true ⟨line', k⟩ next)

/-- One text below the other. -/
theorem Scans.append {start : Token} {column : Nat} {front behind : List Char}
    {tokens tokens' : List Token} (h : Scans start column front tokens)
    (h' : Scans start column behind tokens') (hbegins : ∀ next, AtToken (behind ++ next)) :
    Scans start column (front ++ (spaces column ++ behind)) (tokens ++ tokens') := by
  intro o line k next hmargin hk hnext
  have hopened := Outline.margin_opened hmargin start
  obtain ⟨line', hfront⟩ := h o line hmargin (Nat.le_refl column) (hbegins (spaces k ++ next))
  obtain ⟨line'', hbehind⟩ :=
    h' ((o.opened column start).add tokens) line' (Nat.le_of_eq hopened) hk hnext
  rw [Outline.opened_of_margin hopened, Outline.add_add] at hbehind
  refine ⟨line'', ?_⟩
  have hall := hfront.trans hbehind
  simpa using hall

-- =================================================================== rows

/-- A kind of rows: the token in front of a block of them, the token that
each row begins with, the function that collects them, and where it may be
left. -/
structure Rows (α : Type) where
  start : Token
  first : Token
  collect : Handles → Nat → List α → Rest → Option (List α × Rest)
  ends : List Token → Bool
  ends_first : ∀ rest, ends (first :: rest) = true

/-- The entries of a mapping. -/
def entryRows : Rows (Node × Node) where
  start := .blockMappingStart
  first := .key
  collect := Node.readBlockEntries
  ends := endsBlockPart
  ends_first _ := rfl

/-- The items of a list that stand in the column of its key. -/
def itemRows : Rows Node where
  start := .blockSequenceStart
  first := .blockEntry
  collect := Node.readLooseItems
  ends _ := true
  ends_first _ := rfl

namespace Rows

variable {α : Type} {r : Rows α} {column : Nat} {front behind : List Char} {found found' : List α}

/-- Tokens that are collected to some rows, with one unit of fuel for each
and enough of them left for what is inside. -/
structure Parses (r : Rows α) (tokens : List Token) (found : List α) : Prop where
  begins : ∃ more, tokens = r.first :: more
  length : found.length ≤ tokens.length
  collect : ∀ handles names fuel done rest, tokens.length < fuel + found.length →
    r.ends rest = true →
    r.collect handles (fuel + found.length) done ⟨names, tokens ++ rest⟩
      = r.collect handles fuel (found.reverse ++ done) ⟨names, rest⟩

theorem Parses.append {tokens tokens' : List Token} (h : r.Parses tokens found)
    (h' : r.Parses tokens' found') : r.Parses (tokens ++ tokens') (found ++ found') where
  begins := by
    obtain ⟨more, hmore⟩ := h.begins
    exact ⟨more ++ tokens', by rw [hmore, List.cons_append]⟩
  length := by
    have hfront := h.length
    have hbehind := h'.length
    simp only [List.length_append]
    omega
  collect handles names fuel done rest hfuel hrest := by
    obtain ⟨more, hmore⟩ := h'.begins
    have hends : r.ends (tokens' ++ rest) = true := by
      rw [hmore, List.cons_append]
      exact r.ends_first _
    have hlength := h.length
    rw [List.length_append, List.length_append] at hfuel
    -- the rows behind keep their own fuel: a row never takes fewer tokens than fuel
    have hfront := h.collect handles names (fuel + found'.length) done (tokens' ++ rest)
      (by omega) hends
    have hbehind := h'.collect handles names fuel (found.reverse ++ done) rest (by omega) hrest
    have hsum : fuel + (found ++ found').length = fuel + found'.length + found.length := by
      simp only [List.length_append]
      omega
    rw [hsum, List.append_assoc, hfront, hbehind, List.reverse_append, List.append_assoc]

/-- A text that is read as rows in a column. -/
structure Read (r : Rows α) (column : Nat) (text : List Char) (found : List α) : Prop where
  printable : Printable text
  begins : ∀ behind, AtToken (text ++ behind)
  reads : ∃ tokens, Scans r.start column text tokens ∧ r.Parses tokens found

theorem Read.append (h : r.Read column front found) (h' : r.Read column behind found') :
    r.Read column (front ++ (spaces column ++ behind)) (found ++ found') where
  printable := printable_append.2
    ⟨h.printable, printable_append.2 ⟨Printer.printable_spaces column, h'.printable⟩⟩
  begins next := by
    rw [List.append_assoc]
    exact h.begins _
  reads := by
    obtain ⟨tokens, hscans, hparses⟩ := h.reads
    obtain ⟨tokens', hscans', hparses'⟩ := h'.reads
    exact ⟨tokens ++ tokens', hscans.append hscans' h'.begins, hparses.append hparses'⟩

/-- Rows one below the other in a column. -/
def stacked (column : Nat) : List (List Char) → List Char
  | [] => []
  | [row] => row
  | row :: next :: rest => row ++ (spaces column ++ stacked column (next :: rest))

/-- Rows are read one by one. -/
theorem Read.stacked {β : Type} {text : β → List Char} {node : β → α} {rows : List β}
    (hne : rows ≠ []) (h : ∀ b ∈ rows, r.Read column (text b) [node b]) :
    r.Read column (stacked column (rows.map text)) (rows.map node) := by
  induction rows with
  | nil => exact absurd rfl hne
  | cons b rows ih =>
      have hb := h b List.mem_cons_self
      cases rows with
      | nil => exact hb
      | cons b' rows =>
          have hrest := ih (List.cons_ne_nil _ _) fun d hd => h d (List.mem_cons_of_mem b hd)
          exact hb.append hrest

end Rows

-- ================================================================= values

/-- What stands behind a colon is scanned to some tokens and to the next
token. -/
def ScansBehind (opens : Bool) (column : Nat) (text : List Char) (tokens : List Token) : Prop :=
  ∀ (o : Outline) (place : Place) {k : Nat} {next : List Char}, o.margin = column + 1 →
    column < place.column → k ≤ column → AtToken next →
    ∃ line, Layout.Leads (o.layout opens place (text ++ (spaces k ++ next)))
      ((o.add tokens).layout true ⟨line, k⟩ next)

/-- Tokens that are parsed to a node where a colon announces one. -/
def ParsesPart (tokens : List Token) (node : Node) : Prop :=
  ∀ handles names fuel rest, tokens.length + 2 ≤ fuel → endsBlockPart rest = true →
    Node.readBlockPart handles (fuel + 1) ⟨names, tokens ++ rest⟩ = some (node, ⟨names, rest⟩)

/-- A text that is read as a node behind the colon of a key in a column;
`opens` says whether a key may begin there. -/
structure Behind (opens : Bool) (column : Nat) (text : List Char) (node : Node) : Prop where
  printable : Printable text
  gap : ∀ behind, atGap (text ++ behind) = true
  reads : ∃ tokens, ScansBehind opens column text tokens ∧ ParsesPart tokens node

section

variable {column : Nat} {text : List Char} {entries : List (Node × Node)} {items : List Node}

/-- The inside of a mapping, to its end. -/
theorem Rows.Parses.read_mapping {tokens : List Token} (h : entryRows.Parses tokens entries)
    (handles : Handles) (names : Names) {fuel : Nat} (hfuel : tokens.length + 2 ≤ fuel)
    (loose : Bool) (rest : List Token) :
    Node.read handles fuel true loose
        ⟨names, .blockMappingStart :: (tokens ++ .blockEnd :: rest)⟩
      = some (.mapping none entries, ⟨names, rest⟩) := by
  have hlength := h.length
  obtain ⟨fuel, rfl⟩ : ∃ left, fuel = left + 1 + entries.length + 1 :=
    ⟨fuel - entries.length - 2, by omega⟩
  have hentries : Node.readBlockEntries handles (fuel + 1 + entries.length) []
      ⟨names, tokens ++ .blockEnd :: rest⟩ = _ :=
    h.collect handles names (fuel + 1) [] (.blockEnd :: rest) (by omega) rfl
  have hend : Node.readBlockEntries handles (fuel + 1) (entries.reverse ++ [])
      ⟨names, .blockEnd :: rest⟩ = some (entries, ⟨names, rest⟩) := by
    simp [Node.readBlockEntries]
  rw [Node.read]
  simp [Node.properties?, hentries.trans hend]

/-- The items of a list, to the next token of the mapping around it. -/
theorem Rows.Parses.read_list {tokens : List Token} (h : itemRows.Parses tokens items)
    (handles : Handles) (names : Names) {fuel : Nat} (hfuel : tokens.length + 2 ≤ fuel)
    {rest : List Token} (hrest : endsBlockPart rest = true) :
    Node.read handles fuel true true ⟨names, tokens ++ rest⟩
      = some (.sequence none items, ⟨names, rest⟩) := by
  have hlength := h.length
  obtain ⟨more, hmore⟩ := h.begins
  obtain ⟨fuel, rfl⟩ : ∃ left, fuel = left + 1 + items.length + 1 :=
    ⟨fuel - items.length - 2, by omega⟩
  have hitems : Node.readLooseItems handles (fuel + 1 + items.length) []
      ⟨names, tokens ++ rest⟩ = _ :=
    h.collect handles names (fuel + 1) [] rest (by omega) rfl
  have hhead : rest.head? ≠ some .blockEntry := by
    cases rest with
    | nil => nofun
    | cons t rest =>
        intro ht
        obtain rfl := Option.some.inj ht
        cases hrest
  have hend : Node.readLooseItems handles (fuel + 1) (items.reverse ++ []) ⟨names, rest⟩ = _ :=
    Node.readLooseItems_end hhead
  have hall := hitems.trans hend
  rw [hmore] at hall ⊢
  rw [show itemRows.first :: more ++ rest = .blockEntry :: (more ++ rest) from rfl] at hall ⊢
  rw [Node.read]
  simp [Node.properties?, hall]

namespace Behind

/-- A tree whose keys are words, as it is printed. -/
theorem tree (t : Tree) (hkeys : t.hasKeys = true) (column : Nat) :
    Behind false column (behindKey column t) t.toNode where
  printable := Printer.printable_behindKey t hkeys column
  gap := atGap_behindKey column t
  reads := by
    refine ⟨t.tokens true, ?_, ?_⟩
    · intro o place k next hmargin hplace hk hnext
      exact Outline.leads_behindKey t hkeys o place hmargin (by omega) hk hnext
    · intro handles names fuel rest hfuel hrest
      rw [Node.readBlockPart_value]
      refine Node.read_tokens t true (by simpa using hfuel) fun _ hhead => ?_
      cases rest with
      | nil => cases hhead
      | cons token rest =>
          obtain rfl := Option.some.inj hhead
          cases hrest

/-- A text, as it is printed. -/
theorem scalar (opens : Bool) (column : Nat) (s : String) :
    Behind opens column (' ' :: Printer.scalar (column + 2) s)
      (.scalar none none (styleOf s) s) where
  printable := printable_cons.2 ⟨by decide, Printer.printable_scalar _ s⟩
  gap _ := rfl
  reads := by
    refine ⟨[.scalar (styleOf s) s], ?_, ?_⟩
    · intro o place k next hmargin hplace hk hnext
      obtain ⟨line, hscalar⟩ := Outline.leads_scalar_inside opens
        ⟨place.line, place.column + 1⟩ s hmargin (Nat.lt_succ_of_lt hplace) hk hnext
      exact ⟨line, Outline.leads_space.trans hscalar⟩
    · intro handles names fuel rest hfuel _
      obtain ⟨fuel, rfl⟩ : ∃ left, fuel = left + 1 := Nat.exists_eq_add_of_le' (by omega)
      simp [Node.readBlockPart, endsBlockPart, Node.read, Node.properties?]

/-- Nothing. -/
theorem nothing (column : Nat) : Behind false column ['\n'] .empty where
  printable := by decide
  gap _ := rfl
  reads := by
    refine ⟨[], ?_, ?_⟩
    · intro o place k next _ _ _ hnext
      exact ⟨_, Outline.leads_break hnext⟩
    · intro handles names fuel rest _ hrest
      simp [Node.readBlockPart, hrest]

/-- A mapping, on the lines below and further inside. -/
theorem mapping (h : entryRows.Read (column + 2) text entries) :
    Behind false column ('\n' :: (spaces (column + 2) ++ text)) (.mapping none entries) where
  printable := printable_cons.2
    ⟨by decide, printable_append.2 ⟨Printer.printable_spaces _, h.printable⟩⟩
  gap _ := rfl
  reads := by
    obtain ⟨tokens, hscans, hparses⟩ := h.reads
    refine ⟨.blockMappingStart :: tokens ++ [.blockEnd], ?_, ?_⟩
    · intro o place k next hmargin _ hk hnext
      obtain ⟨line, hinside⟩ := hscans o (place.line + 1) (by omega)
        (show k ≤ column + 2 by omega) hnext
      have hclose : Layout.Leads
          (((o.opened (column + 2) .blockMappingStart).add tokens).layout true ⟨line, k⟩ next) _ :=
        Outline.leads_close .blockMappingStart tokens (by omega) (show k < column + 2 by omega)
          hnext
      refine ⟨line, Layout.Leads.trans ?_ (hinside.trans hclose)⟩
      rw [List.cons_append, List.append_assoc]
      exact Outline.leads_break (h.begins _)
    · intro handles names fuel rest hfuel _
      have hinner : tokens.length + 2 ≤ fuel := by
        simp only [List.length_append, List.length_cons] at hfuel
        omega
      have hread := hparses.read_mapping handles names hinner true rest
      simpa [Node.readBlockPart, endsBlockPart] using hread

/-- A list, on the lines below and in the same column. -/
theorem list (h : itemRows.Read column text items) :
    Behind false column ('\n' :: (spaces column ++ text)) (.sequence none items) where
  printable := printable_cons.2
    ⟨by decide, printable_append.2 ⟨Printer.printable_spaces _, h.printable⟩⟩
  gap _ := rfl
  reads := by
    obtain ⟨tokens, hscans, hparses⟩ := h.reads
    refine ⟨tokens, ?_, ?_⟩
    · intro o place k next hmargin _ hk hnext
      obtain ⟨line, hinside⟩ := hscans o (place.line + 1) (Nat.le_of_eq hmargin) hk hnext
      -- no further inside than the mapping, so the list opens no block of its own
      rw [Outline.opened_of_lt (by omega)] at hinside
      refine ⟨line, Layout.Leads.trans ?_ hinside⟩
      rw [List.cons_append, List.append_assoc]
      exact Outline.leads_break (h.begins _)
    · intro handles names fuel rest hfuel hrest
      have hread := hparses.read_list handles names hfuel hrest
      obtain ⟨more, rfl⟩ := hparses.begins
      exact hread

end Behind

-- ============================================================ single rows

/-- An entry, its key in any form. -/
theorem Rows.Read.entry (k : Key) {node : Node} (h : Behind k.opens column text node) :
    entryRows.Read column (k.text column ++ ':' :: text)
      [(.scalar none none k.style k.word, node)] where
  printable := printable_append.2
    ⟨k.printable_text column, printable_cons.2 ⟨by decide, h.printable⟩⟩
  begins behind := by
    rw [List.append_assoc]
    exact k.atToken_text column _
  reads := by
    obtain ⟨tokens, hscans, hparses⟩ := h.reads
    refine ⟨[.key, .scalar k.style k.word, .value] ++ tokens, ?_, ⟨⟨_, rfl⟩, ?_, ?_⟩⟩
    · intro o line j next hmargin hj hnext
      obtain ⟨place, hplace, hkey⟩ := Outline.leads_key_text k line hmargin
        (h.gap (spaces j ++ next))
      obtain ⟨line', hvalue⟩ := hscans ((o.opened column .blockMappingStart).add
          [.key, .scalar k.style k.word, .value]) place
        (Outline.margin_opened hmargin .blockMappingStart) hplace hj hnext
      refine ⟨line', ?_⟩
      have hall := hkey.trans hvalue
      simpa [entryRows] using hall
    · simp
    · intro handles names fuel done rest hfuel hrest
      -- the key and its value are two parts, each read with what the entry leaves
      obtain ⟨fuel, rfl⟩ : ∃ left, fuel = left + 2 :=
        Nat.exists_eq_add_of_le' (by simp at hfuel; omega)
      have hvalue := hparses handles names (fuel + 1) rest (by simp at hfuel; omega) hrest
      have hkey : Node.readBlockPart handles (fuel + 2)
          ⟨names, .scalar k.style k.word :: .value :: (tokens ++ rest)⟩
          = some (.scalar none none k.style k.word, ⟨names, .value :: (tokens ++ rest)⟩) := rfl
      simp [entryRows, Node.readBlockEntries, hkey, hvalue]

/-- An item that is a mapping. -/
theorem Rows.Read.item (h : entryRows.Read (column + 2) text entries) :
    itemRows.Read column ('-' :: ' ' :: text) [.mapping none entries] where
  printable := printable_cons.2 ⟨by decide, printable_cons.2 ⟨by decide, h.printable⟩⟩
  begins _ := atToken_cons.2 (by decide)
  reads := by
    obtain ⟨tokens, hscans, hparses⟩ := h.reads
    refine ⟨.blockEntry :: .blockMappingStart :: tokens ++ [.blockEnd], ?_, ⟨⟨_, rfl⟩, ?_, ?_⟩⟩
    · intro o line k next hmargin hk hnext
      have hopened := Outline.margin_opened hmargin .blockSequenceStart
      have hmargin' : ((o.opened column .blockSequenceStart).add [.blockEntry]).margin
          = column + 1 := hopened
      have hdash : Layout.Leads
          (o.layout true ⟨line, column⟩ ('-' :: ' ' :: (text ++ (spaces k ++ next)))) _ :=
        Outline.leads_dash ⟨line, column⟩ hmargin rfl
      obtain ⟨line', hinside⟩ := hscans
        ((o.opened column .blockSequenceStart).add [.blockEntry]) line (by omega)
        (show k ≤ column + 2 by omega) hnext
      have hclose : Layout.Leads
          (((((o.opened column .blockSequenceStart).add [.blockEntry]).opened (column + 2)
            .blockMappingStart).add tokens).layout true ⟨line', k⟩ next) _ :=
        Outline.leads_close .blockMappingStart tokens (by omega) (show k < column + 2 by omega)
          hnext
      refine ⟨line', ?_⟩
      have hall := hdash.trans (Outline.leads_space.trans (hinside.trans hclose))
      simpa [itemRows] using hall
    · simp
    · intro handles names fuel done rest hfuel _
      have hinner : tokens.length + 2 ≤ fuel := by
        simp only [List.length_append, List.length_cons] at hfuel
        omega
      have hread := hparses.read_mapping handles names hinner false rest
      simp [itemRows, Node.readLooseItems, hread]

/-- A mapping in the first column is a document. -/
theorem Document.read_rows (h : entryRows.Read 0 text entries) :
    Document.read text = some ⟨.mapping none entries⟩ := by
  obtain ⟨tokens, hscans, hparses⟩ := h.reads
  obtain ⟨line, hleads⟩ := hscans ⟨[], 0, []⟩ 0 (Nat.zero_le _) (Nat.le_refl 0) atToken_nil
  rw [show spaces 0 ++ ([] : List Char) = [] from rfl, List.append_nil] at hleads
  have hroot : root? [] (.blockMappingStart :: tokens ++ [.blockEnd])
      = some (.mapping none entries, []) := by
    have hfuel : tokens.length + 2 ≤ fuelFor (.blockMappingStart :: (tokens ++ [.blockEnd])) := by
      simp only [fuelFor, List.length_append, List.length_cons]
      omega
    rw [List.cons_append, root?, hparses.read_mapping _ _ hfuel]
    rfl
  have htokens : ofTokens? (.blockMappingStart :: tokens ++ [.blockEnd])
      = (root? [] (.blockMappingStart :: tokens ++ [.blockEnd])).bind fun found =>
          if (found.2.dropWhile (· = .documentEnd)).isEmpty then some ⟨found.1⟩ else none := rfl
  rw [Document.read, tokens?_of_leads h.printable hleads, Option.bind_some, htokens, hroot]
  rfl

end

end ConsoleLinks.Yaml
