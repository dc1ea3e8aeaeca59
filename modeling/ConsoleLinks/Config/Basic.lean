/-
Configurations: which customizers take part, in which order they are
asked, how links are written, and how much is logged. Each part has a
default of its own, so a configuration can leave out whatever it does not
change.
-/
import ConsoleLinks.Anchor.Payload
import ConsoleLinks.Line.Ecosystem
import ConsoleLinks.Log.Level

namespace ConsoleLinks

/-- One entry in the list of customizers. -/
structure CustomizerToggle where
  /-- The id of an ecosystem; an id that names none is kept as it is. -/
  id : String
  /-- Whether the customizer takes part. -/
  enabled : Bool := true
deriving DecidableEq, Repr

/-- Every ecosystem's customizer, taking part. -/
def CustomizerToggle.defaults : List CustomizerToggle :=
  Ecosystem.all.map fun e => ⟨e.id, true⟩

/-- A configuration. -/
structure Config where
  /-- The customizers, in the order they are asked. -/
  customizers : List CustomizerToggle := CustomizerToggle.defaults
  /-- How links are written. -/
  anchor : AnchorSettings := {}
  /-- How much is logged. -/
  logLevel : LogLevel := .off
deriving DecidableEq, Repr

namespace Config

/-- The ids of all entries, taking part or not. -/
def ids (c : Config) : List String := c.customizers.map (·.id)

/-- The ids of the customizers that take part, in the order they are
asked. -/
def enabledIds (c : Config) : List String :=
  (c.customizers.filter (·.enabled)).map (·.id)

/-- Whether nothing differs from the defaults. -/
def isDefault (c : Config) : Bool := decide (c = {})

end Config

end ConsoleLinks
