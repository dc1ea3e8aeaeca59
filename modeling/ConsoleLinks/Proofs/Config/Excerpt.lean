/-
Files that show some settings of a configuration.

A file need not show everything. Which settings it shows, in which order
and among which other entries, is told by an excerpt on each of the three
levels: the configuration, the settings of links, and each customizer,
whose id alone is always shown (`Config.Excerpt`). Such a file is read as
the configuration in which every setting that is not shown has its default
(`Config.Excerpt.overlay`), and so it comes to the validation of that one
(`ofYaml_text`). A file that shows everything is what the configuration is
written as (`text_whole`).

A text of nothing but white space is not read at all, so a file without
entries is a case of its own.
-/
import ConsoleLinks.Proofs.Config.RoundTrip
import ConsoleLinks.Proofs.Config.Validation
import ConsoleLinks.Proofs.Yaml.Excerpt

namespace ConsoleLinks

open Yaml (Behind Document Node Tree entryRows itemRows)
open Yaml.Printer (behindKey)

-- ================================================================ fields

/-- The fields of an entry in the list of customizers. -/
inductive CustomizerToggle.Field where
  | id
  | enabled
deriving DecidableEq

/-- The fields of the settings of links. -/
inductive AnchorSettings.Field where
  | scheme
  | openSymbolCall
  | openFileCall
  | openProjectFileCall
deriving DecidableEq

/-- The fields of a configuration. -/
inductive Config.Field where
  | customizers
  | anchor
  | logLevel
deriving DecidableEq

instance : Yaml.Fields CustomizerToggle.Field where
  name
    | .id => "id"
    | .enabled => "enabled"
  isKey f := by cases f <;> decide
  injective f g := by cases f <;> cases g <;> decide

instance : Yaml.Fields AnchorSettings.Field where
  name
    | .scheme => "scheme"
    | .openSymbolCall => "open_symbol_call"
    | .openFileCall => "open_file_call"
    | .openProjectFileCall => "open_project_file_call"
  isKey f := by cases f <;> decide
  injective f g := by cases f <;> cases g <;> decide

instance : Yaml.Fields Config.Field where
  name
    | .customizers => "customizers"
    | .anchor => "anchor"
    | .logLevel => "log_level"
  isKey f := by cases f <;> decide
  injective f g := by cases f <;> cases g <;> decide

/-- A field of an entry as it is written. -/
def CustomizerToggle.fieldTree (t : CustomizerToggle) : Field → Tree
  | .id => .text t.id
  | .enabled => .bool t.enabled

/-- A field of the settings of links as it is written. -/
def AnchorSettings.fieldTree (a : AnchorSettings) : Field → Tree
  | .scheme => .text a.scheme
  | .openSymbolCall => .text a.openSymbolCall
  | .openFileCall => .text a.openFileCall
  | .openProjectFileCall => .text a.openProjectFileCall

-- ============================================================== overlays

/-- The entry with the defaults in place of the fields that are not
kept. -/
def CustomizerToggle.overlay (t : CustomizerToggle) (keeps : Field → Bool) :
    CustomizerToggle where
  id := t.id
  enabled := if keeps .enabled then t.enabled else true

/-- The settings with the defaults in place of the fields that are not
kept. -/
def AnchorSettings.overlay (a : AnchorSettings) (keeps : Field → Bool) : AnchorSettings :=
  let defaults : AnchorSettings := {}
  { scheme := if keeps .scheme then a.scheme else defaults.scheme
    openSymbolCall := if keeps .openSymbolCall then a.openSymbolCall else defaults.openSymbolCall
    openFileCall := if keeps .openFileCall then a.openFileCall else defaults.openFileCall
    openProjectFileCall :=
      if keeps .openProjectFileCall then a.openProjectFileCall
      else defaults.openProjectFileCall }

namespace Config

/-- What a file shows of a configuration. -/
structure Excerpt where
  top : Yaml.Excerpt Config.Field
  anchor : Yaml.Excerpt AnchorSettings.Field
  /-- What it shows of the customizer at each position. -/
  toggle : Nat → Yaml.Excerpt CustomizerToggle.Field
  identified : ∀ i, (toggle i).keeps .id = true

namespace Excerpt

/-- The configuration with the defaults in place of what is not shown. -/
def overlay (e : Excerpt) (c : Config) : Config where
  customizers :=
    if e.top.keeps .customizers then
      c.customizers.zipIdx.map fun (t, i) => t.overlay (e.toggle i).keeps
    else [⟨"java", true⟩, ⟨"csharp", true⟩]
  anchor := if e.top.keeps .anchor then c.anchor.overlay e.anchor.keeps else {}
  logLevel := if e.top.keeps .logLevel then c.logLevel else .off

-- ================================================================= texts

/-- An item of the list of customizers. -/
def itemText (e : Excerpt) : CustomizerToggle × Nat → List Char
  | (t, i) => '-' :: ' ' :: (e.toggle i).text 2 fun f => behindKey 2 (t.fieldTree f)

/-- The list of customizers behind its key. -/
def listText (e : Excerpt) (ts : List CustomizerToggle) : List Char :=
  if ts = [] then " []\n".toList else '\n' :: Yaml.Rows.stacked 0 (ts.zipIdx.map e.itemText)

/-- What stands behind the key of a field. -/
def fieldText (e : Excerpt) (c : Config) : Field → List Char
  | .customizers => e.listText c.customizers
  | .anchor => e.anchor.textBehind 0 fun f => behindKey 2 (c.anchor.fieldTree f)
  | .logLevel => behindKey 0 (.text c.logLevel.name)

/-- The file. -/
def text (e : Excerpt) (c : Config) : List Char := e.top.document (e.fieldText c)

/-- The excerpt without the entries that are no settings. -/
def known (e : Excerpt) : Excerpt where
  top := e.top.known
  anchor := e.anchor.known
  toggle i := (e.toggle i).known
  identified i := by rw [Yaml.Excerpt.keeps_known, e.identified]

/-- The excerpt without any setting. -/
def foreign (e : Excerpt) : Excerpt := { e with top := e.top.foreign }

-- ============================================================ everything

/-- The excerpt that shows every setting, in the order in which they are
written. -/
def whole : Excerpt where
  top := .ofFields [.customizers, .anchor, .logLevel] (by decide)
  anchor := .ofFields [.scheme, .openSymbolCall, .openFileCall, .openProjectFileCall] (by decide)
  toggle _ := .ofFields [.id, .enabled] (by decide)
  identified _ := by decide

theorem itemText_whole (t : CustomizerToggle) (i : Nat) :
    whole.itemText (t, i) = '-' :: Yaml.Printer.behindDash 0 t.toTree := by
  show '-' :: ' ' :: ("id".toList ++ ':' :: behindKey 2 (.text t.id) ++ (Yaml.Printer.spaces 2
    ++ ("enabled".toList ++ ':' :: behindKey 2 (.bool t.enabled)))) = _
  simp [CustomizerToggle.toTree, Yaml.Printer.behindDash, Yaml.Printer.entries]

theorem stacked_itemText_whole (ts : List CustomizerToggle) (n : Nat) :
    Yaml.Rows.stacked 0 ((ts.zipIdx n).map whole.itemText)
      = Yaml.Printer.items 0 (ts.map CustomizerToggle.toTree) := by
  induction ts generalizing n with
  | nil => rfl
  | cons t ts ih =>
      have hrest := ih (n + 1)
      cases ts with
      | nil => exact itemText_whole t n
      | cons t' ts =>
          rw [List.zipIdx_cons] at hrest ⊢
          rw [List.zipIdx_cons, List.map_cons, List.map_cons, Yaml.Rows.stacked, itemText_whole,
            ← List.map_cons, hrest]
          simp [Yaml.Printer.items]

/-- A file that shows everything is what the configuration is written
as. -/
theorem text_whole (c : Config) : whole.text c = c.toYaml := by
  have hlist : whole.listText c.customizers
      = behindKey 0 (.list (c.customizers.map CustomizerToggle.toTree)) := by
    cases hts : c.customizers with
    | nil => rfl
    | cons t ts =>
        rw [listText, if_neg (List.cons_ne_nil _ _), stacked_itemText_whole]
        rfl
  have hanchor : whole.anchor.textBehind 0 (fun f => behindKey 2 (c.anchor.fieldTree f))
      = behindKey 0 c.anchor.toTree := by
    simp [Yaml.Excerpt.textBehind, whole, Yaml.Excerpt.ofFields, Yaml.Excerpt.text,
      Yaml.Rows.stacked, Yaml.Entry.text, Yaml.Fields.name, AnchorSettings.fieldTree,
      AnchorSettings.toTree, behindKey, Yaml.Printer.entries]
  show "customizers".toList ++ ':' :: whole.listText c.customizers ++ (Yaml.Printer.spaces 0
    ++ ("anchor".toList ++ ':' :: whole.anchor.textBehind 0 _ ++ (Yaml.Printer.spaces 0
    ++ ("log_level".toList ++ ':' :: behindKey 0 (.text c.logLevel.name))))) = _
  rw [hlist, hanchor]
  simp [toYaml, toTree, Tree.render, Yaml.Printer.entries]

/-- Then nothing has its default instead. -/
theorem overlay_whole (c : Config) : whole.overlay c = c := by
  have htoggles : (c.customizers.zipIdx.map fun (t, i) => t.overlay (whole.toggle i).keeps)
      = c.customizers := List.zipIdx_map_fst 0 c.customizers
  show Config.mk (c.customizers.zipIdx.map fun (t, i) => t.overlay (whole.toggle i).keeps)
    (c.anchor.overlay whole.anchor.keeps) c.logLevel = c
  rw [htoggles]
  rfl

-- ============================================================== and little

/-- An excerpt that shows the level and the ids of customizers, in an order
of its own, with an entry that is no setting at either level: one whose key
stands between quotes, and one whose key is behind its sign. -/
def sparse : Excerpt where
  top :=
    { entries := [.field .logLevel,
        .further ⟨"null", .quoted, by decide, List.all_eq_true.1 rfl, by decide⟩ "", .field .customizers]
      distinct := by decide
      unknown := Yaml.Entry.ne_name_of_mem (List.forall_mem_cons.2 ⟨.inl rfl,
        List.forall_mem_cons.2 ⟨.inr fun f => by cases f <;> decide,
          List.forall_mem_singleton.2 (.inl rfl)⟩⟩)
      braces := false }
  anchor := .ofFields [] (by decide)
  toggle _ :=
    { entries := [.further ⟨"editor", .explicit, by decide, List.all_eq_true.1 rfl, by decide⟩
        "vi", .field .id]
      distinct := by decide
      unknown := Yaml.Entry.ne_name_of_mem (List.forall_mem_cons.2
        ⟨.inr fun f => by cases f <;> decide, List.forall_mem_singleton.2 (.inl rfl)⟩)
      braces := false }
  identified _ := by decide

-- ================================================================= nodes

variable (e : Excerpt) (c : Config)

/-- The node of an item. -/
def itemNode : CustomizerToggle × Nat → Node
  | (t, i) => .mapping none ((e.toggle i).nodes fun f => (t.fieldTree f).toNode)

/-- The node of a field. -/
def fieldNode : Field → Node
  | .customizers => .sequence none (c.customizers.zipIdx.map e.itemNode)
  | .anchor => e.anchor.toNode fun f => (c.anchor.fieldTree f).toNode
  | .logLevel => (Tree.text c.logLevel.name).toNode

theorem entries_toggle_ne_nil (i : Nat) : (e.toggle i).entries ≠ [] := by
  intro hnil
  have hid := e.identified i
  rw [Yaml.Excerpt.keeps, hnil] at hid
  cases hid

/-- The list of customizers is read behind its key. -/
theorem read_listText (ts : List CustomizerToggle) :
    Behind false 0 (e.listText ts) (.sequence none (ts.zipIdx.map e.itemNode)) := by
  unfold listText
  by_cases hnil : ts = []
  · rw [if_pos hnil, hnil]
    exact Behind.tree (.list []) rfl 0
  · have hitem (b : CustomizerToggle × Nat) : itemRows.Read 0 (e.itemText b) [e.itemNode b] := by
      obtain ⟨t, i⟩ := b
      refine Yaml.Rows.Read.item ((e.toggle i).read (e.entries_toggle_ne_nil i) fun f _ => ?_)
      exact Behind.tree (t.fieldTree f) (by cases f <;> rfl) 2
    have hne : ts.zipIdx ≠ [] := by
      intro hzip
      exact hnil (by simpa using congrArg List.length hzip)
    rw [if_neg hnil]
    exact Behind.list (Yaml.Rows.Read.stacked hne fun b _ => hitem b)

/-- Every field is read behind its key. -/
theorem read_fieldText (f : Field) : Behind false 0 (e.fieldText c f) (e.fieldNode c f) := by
  cases f with
  | customizers => exact e.read_listText c.customizers
  | anchor =>
      exact e.anchor.read_textBehind fun f _ =>
        Behind.tree (c.anchor.fieldTree f) (by cases f <;> rfl) 2
  | logLevel => exact Behind.tree (.text c.logLevel.name) rfl 0

end Excerpt

end Config

-- ================================================================ records

section

variable {Field : Type} [Yaml.Fields Field] [DecidableEq Field]

/-- A field that is kept is read from its node, and any other has its
default. -/
theorem Yaml.fieldD_of_keeps {α : Type} (e : Yaml.Excerpt Field) {node : Field → Node}
    {fields : String → Option Node}
    (hfields : ∀ f, fields (Fields.name f) = if e.keeps f then some (node f) else none)
    (f : Field) {read : Node → Option α} {value : α} (hread : read (node f) = some value)
    (default : α) :
    fieldD (fields (Fields.name f)) read default
      = some (if e.keeps f then value else default) := by
  rw [hfields]
  cases e.keeps f with
  | true => exact hread
  | false => rfl

end

/-- An entry of the list of customizers is read with the defaults of what
is not shown. -/
theorem CustomizerToggle.ofNode?_excerpt (d : Document) (t : CustomizerToggle)
    (e : Yaml.Excerpt Field) (hid : e.keeps .id = true) :
    ofNode? d (e.toNode fun f => (t.fieldTree f).toNode) = some (t.overlay e.keeps) := by
  obtain ⟨fields, hfields, hvalue⟩ :=
    e.fields?_toNode d ["id", "enabled"] fun f => (t.fieldTree f).toNode
  have hfirst : fields "id" = some (Tree.text t.id).toNode := (hvalue .id).trans (if_pos hid)
  have henabled : Yaml.fieldD (fields "enabled") d.bool? true = _ :=
    Yaml.fieldD_of_keeps e hvalue .enabled (d.bool?_toNode t.enabled) true
  rw [ofNode?, hfields]
  simp only [Option.bind_eq_bind, Option.bind_some, hfirst, d.text?_toNode, henabled]
  rfl

/-- So are the settings of links. -/
theorem AnchorSettings.ofNode?_excerpt (d : Document) (a : AnchorSettings)
    (e : Yaml.Excerpt Field) :
    ofNode? d (e.toNode fun f => (a.fieldTree f).toNode) = some (a.overlay e.keeps) := by
  obtain ⟨fields, hfields, hvalue⟩ := e.fields?_toNode d
    ["scheme", "open_symbol_call", "open_file_call", "open_project_file_call"]
    fun f => (a.fieldTree f).toNode
  have hscheme (default : String) : Yaml.fieldD (fields "scheme") d.text? default = _ :=
    Yaml.fieldD_of_keeps e hvalue .scheme (d.text?_toNode a.scheme) default
  have hsymbol (default : String) :
      Yaml.fieldD (fields "open_symbol_call") d.text? default = _ :=
    Yaml.fieldD_of_keeps e hvalue .openSymbolCall (d.text?_toNode a.openSymbolCall) default
  have hfile (default : String) : Yaml.fieldD (fields "open_file_call") d.text? default = _ :=
    Yaml.fieldD_of_keeps e hvalue .openFileCall (d.text?_toNode a.openFileCall) default
  have hproject (default : String) :
      Yaml.fieldD (fields "open_project_file_call") d.text? default = _ :=
    Yaml.fieldD_of_keeps e hvalue .openProjectFileCall (d.text?_toNode a.openProjectFileCall) default
  rw [ofNode?, hfields]
  simp only [Option.bind_eq_bind, Option.bind_some, hscheme, hsymbol, hfile, hproject]
  rfl

namespace Config.Excerpt

variable (e : Excerpt) (c : Config)

/-- The items of the list are read one by one. -/
theorem mapM_itemNode (d : Document) (ts : List (CustomizerToggle × Nat)) :
    (ts.map e.itemNode).mapM (CustomizerToggle.ofNode? d)
      = some (ts.map fun (t, i) => t.overlay (e.toggle i).keeps) := by
  have hread : CustomizerToggle.ofNode? d ∘ e.itemNode
      = fun b => some (b.1.overlay (e.toggle b.2).keeps) := by
    funext ⟨t, i⟩
    have hnode : e.itemNode (t, i)
        = (e.toggle i).toNode fun f => (t.fieldTree f).toNode := by
      rw [Yaml.Excerpt.toNode, if_neg fun hnone => e.entries_toggle_ne_nil i hnone.1]
      rfl
    show CustomizerToggle.ofNode? d (e.itemNode (t, i)) = _
    rw [hnode, CustomizerToggle.ofNode?_excerpt d t _ (e.identified i)]
  rw [List.mapM_map, hread]
  exact List.mapM_pure

/-- The document describes the configuration with the defaults in place of
what is not shown. -/
theorem ofDocument?_toNode :
    ofDocument? ⟨e.top.toNode (e.fieldNode c)⟩ = some (e.overlay c) := by
  generalize hd : (⟨e.top.toNode (e.fieldNode c)⟩ : Document) = d
  have hroot : d.root = e.top.toNode (e.fieldNode c) := by rw [← hd]
  obtain ⟨fields, hfields, hvalue⟩ :=
    e.top.fields?_toNode d ["customizers", "anchor", "log_level"] (e.fieldNode c)
  have hitems : ((d.items? (e.fieldNode c .customizers)).bind
      (·.mapM (CustomizerToggle.ofNode? d))) = _ := e.mapM_itemNode d c.customizers.zipIdx
  have hcustomizers (default : List CustomizerToggle) :
      Yaml.fieldD (fields "customizers")
        (fun node => (d.items? node).bind (·.mapM (CustomizerToggle.ofNode? d))) default = _ :=
    Yaml.fieldD_of_keeps e.top hvalue .customizers hitems default
  have hanchor (default : AnchorSettings) :
      Yaml.fieldD (fields "anchor") (AnchorSettings.ofNode? d) default = _ :=
    Yaml.fieldD_of_keeps e.top hvalue .anchor
      (AnchorSettings.ofNode?_excerpt d c.anchor e.anchor) default
  have hlevel (default : LogLevel) :
      Yaml.fieldD (fields "log_level") (LogLevel.ofNode? d) default = _ :=
    Yaml.fieldD_of_keeps e.top hvalue .logLevel (LogLevel.ofNode?_name d c.logLevel) default
  rw [ofDocument?, hroot, hfields]
  simp only [Option.bind_eq_bind, Option.bind_some, hcustomizers, hanchor, hlevel]
  rfl

/-- Nothing shown is everything by default. -/
theorem overlay_of_keeps_nothing (h : ∀ f, e.top.keeps f = false) : e.overlay c = {} := by
  simp only [overlay, h, Bool.false_eq_true, if_false]
  rfl

/-- The file describes the configuration with the defaults in place of what
is not shown. -/
theorem parse?_text : parse? (e.text c) = some (e.overlay c) := by
  by_cases hsome : e.top.entries ≠ [] ∨ e.top.braces = true
  · have hread : Document.read (e.text c) = some ⟨e.top.toNode (e.fieldNode c)⟩ :=
      e.top.read_document (fun f _ => e.read_fieldText c f) hsome
    have htrim : Text.trim (e.text c) ≠ [] := by
      by_cases hne : e.top.entries = []
      · have hbraces := hsome.resolve_left (not_not_intro hne)
        rw [text, Yaml.Excerpt.document, if_pos hne, if_pos hbraces]
        decide
      · exact e.top.trim_document_ne_nil _ hne
    rw [parse?, if_neg (by simp [htrim]), hread, Option.bind_some, ofDocument?_toNode]
  · -- nothing is written
    obtain ⟨hentries, hbraces⟩ := not_or.1 hsome
    have hnil := Decidable.not_not.1 hentries
    have htext : e.text c = [] := by
      rw [text, Yaml.Excerpt.document, if_pos hnil, if_neg hbraces]
    have hkeeps (f : Field) : e.top.keeps f = false := by
      rw [Yaml.Excerpt.keeps, hnil]
      rfl
    rw [htext, e.overlay_of_keeps_nothing c hkeeps]
    rfl

/-- What is no setting does not matter to the configuration. -/
theorem overlay_known : e.known.overlay c = e.overlay c := by
  have hkeeps {F : Type} [Yaml.Fields F] [DecidableEq F] (x : Yaml.Excerpt F) :
      x.known.keeps = x.keeps := funext x.keeps_known
  simp only [overlay, known, hkeeps]

/-- A file that shows some settings of a configuration comes to the
validation of the configuration that has its defaults in place of the
others, whatever entries stand among them that are no settings; and
without any setting to the defaults. -/
theorem ofYaml_text :
    ofYaml (e.text c) = (e.overlay c).validate.mapError .invalid
      ∧ ofYaml (e.text c) = ofYaml (e.known.text c)
      ∧ ofYaml (e.foreign.text c) = .ok {} := by
  have hread (e : Excerpt) : ofYaml (e.text c) = (e.overlay c).validate.mapError .invalid := by
    rw [ofYaml, e.parse?_text c]
    cases hvalidate : (e.overlay c).validate with
    | ok c' => simp only [hvalidate]; rfl
    | error defect => simp only [hvalidate]; rfl
  refine ⟨hread e, ?_, ?_⟩
  · rw [hread e, hread e.known, e.overlay_known]
  · have hnothing : e.foreign.overlay c = {} :=
      e.foreign.overlay_of_keeps_nothing c fun f => e.top.keeps_foreign f
    rw [hread e.foreign, hnothing, validate_default]
    rfl

/-- A file that leaves out the settings of links and whether a customizer
takes part, and has two entries that are no settings: what it leaves out has
its default, and not what the configuration says. -/
theorem ofYaml_text_sparse :
    let c : Config := ⟨[⟨"java", false⟩], { scheme := "vscode:" }, .info⟩
    sparse.text c
        = "log_level: info\n'null': ''\ncustomizers:\n- ? editor\n  : vi\n  id: java\n".toList
      ∧ ofYaml (sparse.text c) = .ok ⟨[⟨"java", true⟩], {}, .info⟩ := by
  intro c
  have hoverlay : sparse.overlay c = ⟨[⟨"java", true⟩], {}, .info⟩ := rfl
  have hdefect : (sparse.overlay c).defect? = none := by decide +kernel
  refine ⟨by decide +kernel, ?_⟩
  rw [(sparse.ofYaml_text c).1, validate, hdefect, hoverlay]
  rfl

end Config.Excerpt

end ConsoleLinks
