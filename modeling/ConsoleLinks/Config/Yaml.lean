/-
Configurations as YAML. Writing shows every field; reading lets any field
be missing that has a default, and passes over fields of other names. A
text with nothing but white space in it is the default configuration.
-/
import ConsoleLinks.Config.Validation
import ConsoleLinks.Text.Blank
import ConsoleLinks.Yaml.Document
import ConsoleLinks.Yaml.Printer

namespace ConsoleLinks

open Yaml (Document Node Tree)

-- ============================================================= writing

/-- An entry of the list of customizers. -/
def CustomizerToggle.toTree (t : CustomizerToggle) : Tree :=
  .mapping [("id", .text t.id), ("enabled", .bool t.enabled)]

/-- The settings of links. -/
def AnchorSettings.toTree (a : AnchorSettings) : Tree :=
  .mapping
    [("scheme", .text a.scheme), ("open_symbol_call", .text a.openSymbolCall),
     ("open_file_call", .text a.openFileCall),
     ("open_project_file_call", .text a.openProjectFileCall)]

namespace Config

/-- A configuration with all its fields. -/
def toTree (c : Config) : Tree :=
  .mapping
    [("customizers", .list (c.customizers.map CustomizerToggle.toTree)),
     ("anchor", c.anchor.toTree), ("log_level", .text c.logLevel.name)]

/-- The text of a configuration. -/
def toYaml (c : Config) : List Char := c.toTree.render

end Config

-- ============================================================= reading

/-- A field that is read when it is given, and otherwise has a
default. -/
def Yaml.fieldD {α : Type} (field : Option Node) (read : Node → Option α)
    (default : α) : Option α :=
  match field with
  | none => some default
  | some node => read node

/-- The entry that a node describes. -/
def CustomizerToggle.ofNode? (d : Document) (node : Node) :
    Option CustomizerToggle := do
  let fields ← d.fields? ["id", "enabled"] node
  let id ← (fields "id").bind d.text?
  let enabled ← Yaml.fieldD (fields "enabled") d.bool? true
  return ⟨id, enabled⟩

/-- The settings of links that a node describes. -/
def AnchorSettings.ofNode? (d : Document) (node : Node) : Option AnchorSettings := do
  let fields ← d.fields?
    ["scheme", "open_symbol_call", "open_file_call", "open_project_file_call"] node
  let defaults : AnchorSettings := {}
  let text name := Yaml.fieldD (fields name) d.text?
  let scheme ← text "scheme" defaults.scheme
  let symbolCall ← text "open_symbol_call" defaults.openSymbolCall
  let fileCall ← text "open_file_call" defaults.openFileCall
  let projectFileCall ← text "open_project_file_call" defaults.openProjectFileCall
  return ⟨scheme, symbolCall, fileCall, projectFileCall⟩

/-- The level that a node names. -/
def LogLevel.ofNode? (d : Document) (node : Node) : Option LogLevel :=
  (d.choice? node).bind ofName?

namespace Config

/-- The configuration that a document describes, not validated. -/
def ofDocument? (d : Document) : Option Config := do
  let fields ← d.fields? ["customizers", "anchor", "log_level"] d.root
  let toggles node := (d.items? node).bind (·.mapM (CustomizerToggle.ofNode? d))
  let customizers ←
    Yaml.fieldD (fields "customizers") toggles CustomizerToggle.defaults
  let anchor ← Yaml.fieldD (fields "anchor") (AnchorSettings.ofNode? d) {}
  let logLevel ← Yaml.fieldD (fields "log_level") (LogLevel.ofNode? d) .off
  return ⟨customizers, anchor, logLevel⟩

/-- The configuration that a text describes, not validated. -/
def parse? (text : List Char) : Option Config :=
  if (Text.trim text).isEmpty then some {} else (Document.read text).bind ofDocument?

/-- Why a text is not a configuration. -/
inductive TextFault where
  /-- The text is not YAML, or of another shape. -/
  | shape
  /-- The configuration is not valid. -/
  | invalid (defect : Defect)
deriving DecidableEq, Repr

/-- The valid configuration that a text describes. -/
def ofYaml (text : List Char) : Except TextFault Config :=
  match parse? text with
  | none => .error .shape
  | some c =>
    match c.validate with
    | .ok c => .ok c
    | .error defect => .error (.invalid defect)

end Config

end ConsoleLinks
