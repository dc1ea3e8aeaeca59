/-
The ecosystems whose lines are recognized, each with the id that a
configuration names it by.
-/
import ConsoleLinks.Line.Java
import ConsoleLinks.Line.CSharp

namespace ConsoleLinks

/-- A source ecosystem with a line grammar. -/
inductive Ecosystem where
  | java
  | csharp
deriving DecidableEq, Repr

namespace Ecosystem

/-- Every ecosystem, in the order they are tried by default. -/
def all : List Ecosystem := [java, csharp]

/-- The id used in configurations and reports. -/
def id : Ecosystem → String
  | java => "java"
  | csharp => "csharp"

/-- The name shown to people. -/
def displayName : Ecosystem → String
  | java => "Java"
  | csharp => "C#/.NET"

/-- The ecosystem of an id, if there is one. -/
def ofId? (name : String) : Option Ecosystem := all.find? (·.id = name)

/-- What the ecosystem's grammar makes of a line without its line
break. -/
def verdict (e : Ecosystem) (line : String) : Verdict :=
  match e with
  | java => Java.verdict line.toList
  | csharp => CSharp.verdict line.toList

/-- What the line is, when the ecosystem recognizes it. -/
def detect (e : Ecosystem) (line : String) : Option LineMatch :=
  (e.verdict line).match?

theorem ofId?_id (e : Ecosystem) : ofId? e.id = some e := by
  cases e <;> decide

end Ecosystem

end ConsoleLinks
