/-
Structures as JSON: an object with the fields as its members, or an array
of the fields in order. A field that has a default may be missing, or the
array end before it.
-/
import ConsoleLinks.Json.Value

namespace ConsoleLinks.Json

/-- The fields of a structure, looked up by name. -/
abbrev Fields := String → Option Json

/-- The fields that a value gives for a structure with the named
fields. -/
def fieldsOf? (names : List String) : Json → Option Fields
  | object members => some (object members).member?
  | array items =>
    if items.length ≤ names.length then some ((names.zip items).lookup ·) else none
  | _ => none

/-- A field that is read when it is given, and otherwise has a
default. -/
def Fields.getD {α : Type} (fields : Fields) (name : String) (read : Json → Option α)
    (default : α) : Option α :=
  match fields name with
  | none => some default
  | some value => read value

/-- The items of an array, each read. -/
def items? {α : Type} (read : Json → Option α) : Json → Option (List α)
  | array items => items.mapM read
  | _ => none

/-- The truth value that a value is. -/
def bool? : Json → Option Bool
  | bool b => some b
  | _ => none

end ConsoleLinks.Json
