/-
Configurations written as YAML and read back.

A configuration is a tree whose keys are the names of its fields, so what
is written is read as the node of that tree, whatever ids, scheme and
names of calls it has. From the node each field comes back as it was
written (`ofDocument?_toTree`), so the text describes the configuration
itself (`parse?_toYaml`) and no other, and reading it can fail only at
the validation of this configuration (`ofYaml_toYaml`).
-/
import ConsoleLinks.Config.Yaml
import ConsoleLinks.Proofs.Text.Runs
import ConsoleLinks.Proofs.Yaml.RoundTrip

namespace ConsoleLinks

open Yaml (Document Tree)

-- ================================================================= parts

/-- An entry of the list of customizers is read as it was written. -/
theorem CustomizerToggle.ofNode?_toTree (d : Document) (t : CustomizerToggle) :
    ofNode? d t.toTree.toNode = some t := by
  have hkeys : ["id", "enabled"].Nodup := by decide
  have hfields : d.fields? ["id", "enabled"] t.toTree.toNode = _ :=
    Document.fields?_toNode d _ hkeys
  rw [ofNode?, hfields]
  show (d.text? (Tree.text t.id).toNode).bind (fun id =>
    (d.bool? (Tree.bool t.enabled).toNode).bind fun enabled => some ⟨id, enabled⟩) = some t
  rw [Document.text?_toNode, Option.bind_some, Document.bool?_toNode, Option.bind_some]

/-- So are the settings of links. -/
theorem AnchorSettings.ofNode?_toTree (d : Document) (a : AnchorSettings) :
    ofNode? d a.toTree.toNode = some a := by
  have hkeys : ["scheme", "open_symbol_call", "open_file_call",
      "open_project_file_call"].Nodup := by decide
  have hfields : d.fields? ["scheme", "open_symbol_call", "open_file_call",
      "open_project_file_call"] a.toTree.toNode = _ := Document.fields?_toNode d _ hkeys
  rw [ofNode?, hfields]
  rfl

/-- So is the level. -/
theorem LogLevel.ofNode?_name (d : Document) (level : LogLevel) :
    ofNode? d (Tree.text level.name).toNode = some level := by
  rw [ofNode?, Document.choice?_toNode, Option.bind_some, ofName?_name]

namespace Config

-- ============================================================ the document

/-- The list of customizers is read as it was written. -/
theorem mapM_ofNode?_toTree (d : Document) (ts : List CustomizerToggle) :
    ((ts.map CustomizerToggle.toTree).map Tree.toNode).mapM (CustomizerToggle.ofNode? d)
      = some ts := by
  have hread : (CustomizerToggle.ofNode? d ∘ Tree.toNode) ∘ CustomizerToggle.toTree = pure :=
    funext (CustomizerToggle.ofNode?_toTree d)
  rw [List.mapM_map, List.mapM_map, hread]
  exact (List.mapM_pure (f := id)).trans (congrArg some (List.map_id ts))

/-- The document of a configuration describes it. -/
theorem ofDocument?_toTree (c : Config) : ofDocument? ⟨c.toTree.toNode⟩ = some c := by
  have hkeys : ["customizers", "anchor", "log_level"].Nodup := by decide
  have hfields (d : Document) :
      d.fields? ["customizers", "anchor", "log_level"] c.toTree.toNode = _ :=
    Document.fields?_toNode d _ hkeys
  rw [ofDocument?, hfields]
  generalize ({ root := c.toTree.toNode } : Document) = d
  show ((d.items? (Tree.list (c.customizers.map CustomizerToggle.toTree)).toNode).bind
      (·.mapM (CustomizerToggle.ofNode? d))).bind (fun customizers =>
    (AnchorSettings.ofNode? d c.anchor.toTree.toNode).bind fun anchor =>
      (LogLevel.ofNode? d (Tree.text c.logLevel.name).toNode).bind fun level =>
        some ⟨customizers, anchor, level⟩) = some c
  rw [Document.items?_toNode, Option.bind_some, mapM_ofNode?_toTree, Option.bind_some,
    AnchorSettings.ofNode?_toTree, Option.bind_some, LogLevel.ofNode?_name, Option.bind_some]

/-- The keys of a configuration are words. -/
theorem hasKeys_toTree (c : Config) : c.toTree.hasKeys = true := by
  have hfields : ∀ name ∈ ["id", "enabled", "customizers", "anchor", "log_level", "scheme",
      "open_symbol_call", "open_file_call", "open_project_file_call"],
      Yaml.Plain.isKey name = true := by decide
  have htoggles (ts : List CustomizerToggle) :
      Yaml.itemsHaveKeys (ts.map CustomizerToggle.toTree) = true := by
    induction ts with
    | nil => rfl
    | cons t ts ih =>
        rw [List.map_cons, Yaml.itemsHaveKeys, ih]
        simp [CustomizerToggle.toTree, Tree.hasKeys, Yaml.entriesHaveKeys, hfields]
  simp [toTree, AnchorSettings.toTree, Tree.hasKeys, Yaml.entriesHaveKeys, htoggles, hfields]

/-- Something is written. -/
theorem trim_toYaml_ne_nil (c : Config) : Text.trim c.toYaml ≠ [] := by
  obtain ⟨rest, hrest⟩ : ∃ rest, c.toYaml = 'c' :: rest := ⟨_, rfl⟩
  have hmem : 'c' ∈ c.toYaml := by
    rw [hrest]
    exact List.mem_cons_self
  exact Text.trim_ne_nil hmem (by decide)

/-- The text of a configuration describes it. -/
theorem parse?_toYaml (c : Config) : parse? c.toYaml = some c := by
  have hread : Document.read c.toYaml = some ⟨c.toTree.toNode⟩ :=
    Document.read_render _ (hasKeys_toTree c)
  rw [parse?, if_neg (by simp [trim_toYaml_ne_nil c]), hread, Option.bind_some,
    ofDocument?_toTree]

/-- A configuration that is written and read back is the same, or, if it
is not valid, fails with its own defect. -/
theorem ofYaml_toYaml (c : Config) :
    ofYaml c.toYaml
      = match c.validate with
        | .ok _ => .ok c
        | .error defect => .error (.invalid defect) := by
  rw [ofYaml, parse?_toYaml]
  simp only [validate]
  cases c.defect? with
  | none => rfl
  | some defect => rfl

end Config

end ConsoleLinks
