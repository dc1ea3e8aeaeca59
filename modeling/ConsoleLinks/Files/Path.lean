/-
Paths: names between slashes.
-/
import ConsoleLinks.Text.Scan

namespace ConsoleLinks.Path

/-- A path and a name below it, with one slash between them. -/
def join (base name : String) : String :=
  if base = "" || Text.endsWith ['/'] base.toList then base ++ name
  else base ++ "/" ++ name

/-- The names between the slashes of a path. -/
def names (path : String) : List String :=
  (Text.pieces '/' path.toList).map String.ofList

/-- The longest name, in bytes. -/
def longestName : Nat := 255

/-- The longest path, in bytes. -/
def longestPath : Nat := 4095

end ConsoleLinks.Path
