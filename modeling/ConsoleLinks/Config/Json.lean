/-
Configurations as JSON. Each structure is an object or an array of its
fields, and a field that has a default may be left out. A field that is
given must fit: `null` stands for nothing here.
-/
import ConsoleLinks.Config.Basic
import ConsoleLinks.Json.Fields

namespace ConsoleLinks

namespace AnchorSettings

def fieldNames : List String :=
  ["scheme", "open_symbol_call", "open_file_call", "open_project_file_call"]

/-- The settings that a value describes. -/
def ofJson? (value : Json) : Option AnchorSettings := do
  let fields ← value.fieldsOf? fieldNames
  let defaults : AnchorSettings := {}
  let scheme ← fields.getD "scheme" Json.text? defaults.scheme
  let symbolCall ← fields.getD "open_symbol_call" Json.text? defaults.openSymbolCall
  let fileCall ← fields.getD "open_file_call" Json.text? defaults.openFileCall
  let projectFileCall ←
    fields.getD "open_project_file_call" Json.text? defaults.openProjectFileCall
  return ⟨scheme, symbolCall, fileCall, projectFileCall⟩

end AnchorSettings

/-- The entry that a value describes. -/
def CustomizerToggle.ofJson? (value : Json) : Option CustomizerToggle := do
  let fields ← value.fieldsOf? ["id", "enabled"]
  let id ← (fields "id").bind Json.text?
  let enabled ← fields.getD "enabled" Json.bool? true
  return ⟨id, enabled⟩

/-- The level that a value names: a text, or an object with that one
member and nothing in it. -/
def LogLevel.ofJson? : Json → Option LogLevel
  | .str name => ofName? name
  | .object [(name, .null)] => ofName? name
  | _ => none

/-- The configuration that a value describes. -/
def Config.ofJson? (value : Json) : Option Config := do
  let fields ← value.fieldsOf? ["customizers", "anchor", "log_level"]
  let customizers ←
    fields.getD "customizers" (Json.items? CustomizerToggle.ofJson?)
      CustomizerToggle.defaults
  let anchor ← fields.getD "anchor" AnchorSettings.ofJson? {}
  let logLevel ← fields.getD "log_level" LogLevel.ofJson? .off
  return ⟨customizers, anchor, logLevel⟩

end ConsoleLinks
