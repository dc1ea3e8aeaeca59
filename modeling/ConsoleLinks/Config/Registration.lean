/-
The dispatcher that a configuration describes: one customizer for each
entry that takes part and names an ecosystem, in the order of the
entries, all writing links in the same way. An entry that names no
ecosystem leaves an error in the log and is skipped.
-/
import ConsoleLinks.Config.Basic
import ConsoleLinks.Dispatcher

namespace ConsoleLinks.Config

/-- The ecosystems whose customizers are registered, in order. -/
def registered (c : Config) : List Ecosystem := c.enabledIds.filterMap Ecosystem.ofId?

/-- The dispatcher of a configuration, at the start of a stream. -/
def dispatcher (c : Config) : Dispatcher :=
  .ofCustomizers (c.registered.map (Ecosystem.customizer c.anchor))

/-- The ids that name an ecosystem, as messages list them. -/
def knownIds : String := String.intercalate ", " (Ecosystem.all.map Ecosystem.id)

/-- What the registration of an id leaves in the log. -/
def registrationRemark (id : String) : Log.Record :=
  match Ecosystem.ofId? id with
  | some _ => .info "CONFIG" ("registered customizer " ++ id)
  | none =>
    .error "CONFIG"
      ("unknown customizer id '" ++ id ++ "' (known: " ++ knownIds ++ "), skipping")

/-- What the registration of the customizers leaves in the log. -/
def registrationRemarks (c : Config) : List Log.Record :=
  c.enabledIds.map registrationRemark

end ConsoleLinks.Config
