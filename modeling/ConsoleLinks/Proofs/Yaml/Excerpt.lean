/-
Excerpts: mappings that show some fields of a record.

A reader of settings looks fields up by name, so a file may leave fields
out, give those it shows in any order, and hold entries of other names. An
excerpt says which of this a file does (`Excerpt`); what its fields are is
left open, and so are the texts and the nodes of the values. Where the
text of each value is read as its node, the mapping is read as the entries
of the excerpt (`Excerpt.read`), and a field looked up there is the one of
the record if the excerpt keeps it, and none otherwise
(`Excerpt.fields?_toNode`).

A mapping without entries has no rows at all. It is written as empty
braces, or nothing is written, which a reader takes for the same.

Consumed by files that show some settings of a configuration
(`Proofs/Config/Excerpt.lean`).
-/
import ConsoleLinks.Proofs.Text.Runs
import ConsoleLinks.Proofs.Yaml.Blocks

namespace ConsoleLinks.Yaml

open Printer (spaces styleOf)

-- ================================================================ fields

/-- Fields whose names are distinct words. -/
class Fields (Field : Type) where
  name : Field → String
  isKey : ∀ f, Plain.isKey (name f) = true
  injective : ∀ f g, name f = name g → f = g

/-- An entry of a mapping that describes a record: one of the fields, or a
further one with a text. -/
inductive Entry (Field : Type) where
  | field (f : Field)
  | further (key : Key) (value : String)
deriving DecidableEq

variable {Field : Type} [Fields Field]

namespace Entry

/-- The word that is the key. -/
def word : Entry Field → String
  | field f => Fields.name f
  | further key _ => key.word

/-- Whether this is a field of the record. -/
def isField : Entry Field → Bool
  | field _ => true
  | further _ _ => false

end Entry

/-- Entries of which each is a field or names none. -/
theorem Entry.ne_name_of_mem {entries : List (Entry Field)}
    (h : ∀ e ∈ entries, e.isField = true ∨ ∀ f : Field, e.word ≠ Fields.name f)
    (key : Key) (value : String) (hmem : .further key value ∈ entries) (f : Field) :
    key.word ≠ Fields.name f := by
  rcases h _ hmem with hfield | hword
  · cases hfield
  · exact hword f

/-- Some fields of a record in some order, among further entries that name
no field. -/
structure Excerpt (Field : Type) [Fields Field] where
  entries : List (Entry Field)
  distinct : (entries.map Entry.word).Nodup
  unknown : ∀ key value, .further key value ∈ entries → ∀ f : Field, key.word ≠ Fields.name f
  /-- Whether braces are written where there are no entries. -/
  braces : Bool

-- =============================================================== entries

namespace Entry

/-- An entry in a column, where the texts behind the keys of fields are
given. -/
def text (column : Nat) (behind : Field → List Char) : Entry Field → List Char
  | field f => (Fields.name f).toList ++ ':' :: behind f
  | further key value => key.text column ++ ':' :: ' ' :: Printer.scalar (column + 2) value

/-- The node of a key. -/
def keyNode : Entry Field → Node
  | field f => .scalar none none .plain (Fields.name f)
  | further key _ => .scalar none none key.style key.word

/-- The node of a value, where those of fields are given. -/
def valueNode (node : Field → Node) : Entry Field → Node
  | field f => node f
  | further _ value => .scalar none none (styleOf value) value

/-- An entry is read as its key and its value. -/
theorem read {column : Nat} {behind : Field → List Char} {node : Field → Node}
    (e : Entry Field) (h : ∀ f, e = field f → Behind false column (behind f) (node f)) :
    entryRows.Read column (e.text column behind) [(e.keyNode, e.valueNode node)] := by
  cases e with
  | field f => exact Rows.Read.entry (Key.ofName (Fields.name f) (Fields.isKey f)) (h f rfl)
  | further key value => exact Rows.Read.entry key (Behind.scalar key.opens column value)

theorem text?_keyNode (d : Document) (e : Entry Field) : d.text? e.keyNode = some e.word := by
  cases e <;> rfl

theorem colon_mem_text (column : Nat) (behind : Field → List Char) (e : Entry Field) :
    ':' ∈ e.text column behind := by
  cases e <;> simp [text]

end Entry

namespace Excerpt

/-- Some fields and nothing else. -/
def ofFields (fields : List Field) (h : fields.Nodup) : Excerpt Field where
  entries := fields.map .field
  distinct := by
    rw [List.map_map]
    exact List.pairwise_map.2 (h.imp fun hne hname => hne (Fields.injective _ _ hname))
  unknown key value hmem := by
    obtain ⟨f, -, hf⟩ := List.mem_map.1 hmem
    cases hf
  braces := true

variable (e : Excerpt Field)

/-- The entries that satisfy a condition. -/
def filter (p : Entry Field → Bool) : Excerpt Field where
  entries := e.entries.filter p
  distinct := e.distinct.sublist (List.filter_sublist.map _)
  unknown key value hmem := e.unknown key value (List.mem_filter.1 hmem).1
  braces := e.braces

/-- The fields without the further entries. -/
def known : Excerpt Field := e.filter Entry.isField

/-- The further entries without the fields. -/
def foreign : Excerpt Field := e.filter (!·.isField)

-- ================================================================== text

/-- The entries in a column. -/
def text (column : Nat) (behind : Field → List Char) : List Char :=
  Rows.stacked column (e.entries.map (Entry.text column behind))

/-- The mapping behind a key in a column. The texts behind its own keys are
given for the column in which these stand. -/
def textBehind (column : Nat) (behind : Field → List Char) : List Char :=
  if e.entries = [] then if e.braces then " \x7b\x7d\n".toList else ['\n']
  else '\n' :: (spaces (column + 2) ++ e.text (column + 2) behind)

/-- The mapping as a document. -/
def document (behind : Field → List Char) : List Char :=
  if e.entries = [] then if e.braces then "\x7b\x7d\n".toList else []
  else e.text 0 behind

/-- A document with entries has some text in it. -/
theorem trim_document_ne_nil (behind : Field → List Char) (hne : e.entries ≠ []) :
    Text.trim (e.document behind) ≠ [] := by
  obtain ⟨entry, rest, hentries⟩ := List.exists_cons_of_ne_nil hne
  have hmem : ':' ∈ Rows.stacked 0 (e.entries.map (Entry.text 0 behind)) := by
    have hcolon := entry.colon_mem_text 0 behind
    rw [hentries, List.map_cons]
    cases rest with
    | nil => exact hcolon
    | cons entry' rest => exact List.mem_append_left _ hcolon
  rw [document, if_neg hne]
  exact Text.trim_ne_nil hmem (by decide)

-- ================================================================== kept

variable [DecidableEq Field]

/-- Whether a field is shown. -/
def keeps (f : Field) : Bool := .field f ∈ e.entries

@[simp] theorem keeps_known (f : Field) : e.known.keeps f = e.keeps f := by
  simp [keeps, known, filter, Entry.isField]

@[simp] theorem keeps_foreign (f : Field) : e.foreign.keeps f = false := by
  simp [keeps, foreign, filter, Entry.isField]

-- =============================================================== reading

variable {node : Field → Node} {behind : Field → List Char} {column : Nat}

/-- The entries that are read. -/
def nodes (node : Field → Node) : List (Node × Node) :=
  e.entries.map fun entry => (entry.keyNode, entry.valueNode node)

/-- The node that the mapping is read as. -/
def toNode (node : Field → Node) : Node :=
  if e.entries = [] ∧ e.braces = false then .empty else .mapping none (e.nodes node)

/-- The entries are read one by one. -/
theorem read (hne : e.entries ≠ [])
    (h : ∀ f, e.keeps f = true → Behind false column (behind f) (node f)) :
    entryRows.Read column (e.text column behind) (e.nodes node) := by
  refine Rows.Read.stacked hne fun entry hentry => entry.read fun f hf => h f ?_
  rw [hf] at hentry
  exact decide_eq_true hentry

/-- The mapping is read behind a key. -/
theorem read_textBehind
    (h : ∀ f, e.keeps f = true → Behind false (column + 2) (behind f) (node f)) :
    Behind false column (e.textBehind column behind) (e.toNode node) := by
  unfold textBehind Excerpt.toNode
  by_cases hne : e.entries = []
  · have hnodes : e.nodes node = [] := by rw [nodes, hne, List.map_nil]
    rw [if_pos hne]
    cases hbraces : e.braces with
    | true =>
        simp only [hnodes, if_true]
        rw [if_neg (by simp)]
        exact Behind.tree (.mapping []) rfl column
    | false =>
        rw [if_neg Bool.false_ne_true, if_pos ⟨hne, rfl⟩]
        exact Behind.nothing column
  · rw [if_neg hne, if_neg fun hnone => hne hnone.1]
    exact Behind.mapping (e.read hne h)

/-- The document is the mapping, unless nothing is written. -/
theorem read_document (h : ∀ f, e.keeps f = true → Behind false 0 (behind f) (node f))
    (hsome : e.entries ≠ [] ∨ e.braces = true) :
    Document.read (e.document behind) = some ⟨e.toNode node⟩ := by
  unfold document Excerpt.toNode
  by_cases hne : e.entries = []
  · have hbraces := hsome.resolve_left (not_not_intro hne)
    have hnodes : e.nodes node = [] := by rw [nodes, hne, List.map_nil]
    rw [if_pos hne, if_pos hbraces, if_neg (by simp [hbraces]), hnodes]
    exact Document.read_render [] rfl
  · rw [if_neg hne, if_neg fun hnone => hne hnone.1]
    exact Document.read_rows (e.read hne h)

-- =============================================================== looking up

/-- A field is found under its name where the excerpt keeps it. -/
theorem lookup_name (f : Field) :
    (e.entries.map fun entry => (entry.word, entry.valueNode node)).lookup (Fields.name f)
      = if e.keeps f then some (node f) else none := by
  have hunknown := e.unknown
  unfold keeps
  generalize e.entries = entries at hunknown
  induction entries with
  | nil => rfl
  | cons entry rest ih =>
      have hrest := ih fun key value hmem => hunknown key value (List.mem_cons_of_mem _ hmem)
      rw [List.map_cons, List.lookup_cons, hrest]
      cases entry with
      | further key value =>
          have hne : Fields.name f ≠ key.word :=
            (hunknown key value List.mem_cons_self f).symm
          simp [Entry.word, beq_eq_false_iff_ne.2 hne]
      | field g =>
          by_cases hfg : f = g
          · simp [Entry.word, Entry.valueNode, hfg]
          · have hne : Fields.name f ≠ Fields.name g := fun hname =>
              hfg (Fields.injective f g hname)
            simp [Entry.word, beq_eq_false_iff_ne.2 hne, hfg]

/-- The fields of a mapping of which an excerpt is given. -/
theorem fields?_toNode (d : Document) (names : List String) (node : Field → Node) :
    ∃ fields, d.fields? names (e.toNode node) = some fields
      ∧ ∀ f, fields (Fields.name f) = if e.keeps f then some (node f) else none := by
  unfold Excerpt.toNode
  split
  next hnone =>
    have hfields : d.fields? names .empty = some fun _ => none := by
      simp [Document.fields?, Document.entries?, Node.empty, Document.resolve,
        Document.isNothing]
    refine ⟨_, hfields, fun f => ?_⟩
    simp [keeps, hnone.1]
  next =>
    exact ⟨_, d.fields?_mapping (Entry.text?_keyNode d) names none e.distinct, e.lookup_name⟩

end Excerpt

end ConsoleLinks.Yaml
