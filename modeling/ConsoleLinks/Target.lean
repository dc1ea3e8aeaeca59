/-
Where a link leads: the action that whoever shows the linked line
carries out when the link is followed. A target only describes the place;
nothing here opens anything.
-/
import ConsoleLinks.Line.Basic

namespace ConsoleLinks

-- ============================================================= actions

/-- What a link does. -/
inductive Action where
  | openSymbol
  | openFile
  | openProjectFile
deriving DecidableEq, Repr

namespace Action

def all : List Action := [openSymbol, openFile, openProjectFile]

/-- The name of an action. -/
def name : Action → String
  | openSymbol => "open_symbol"
  | openFile => "open_file"
  | openProjectFile => "open_project_file"

/-- The action of a name. -/
def ofName? (text : String) : Option Action := all.find? (·.name = text)

theorem ofName?_name (a : Action) : ofName? a.name = some a := by
  cases a <;> decide

end Action

-- ============================================================= targets

/-- The place a link opens. -/
inductive NavigationTarget where
  /-- The file that declares `symbol`, at a line. -/
  | openSymbol (symbol file : String) (line : UInt32)
  /-- A file by its path, at a line. -/
  | openFile (file : String) (line : UInt32)
  /-- A file of a project, at a line and column. -/
  | openProjectFile (file : String) (project : Option String) (line column : UInt32)
deriving DecidableEq, Repr

namespace NavigationTarget

/-- The target of a recognized line. A frame leads to its symbol where it
names one and to its file otherwise, a diagnostic to a place in its
project, in the first column when it names none. -/
def ofMatch? : LineMatch → Option NavigationTarget
  | .stackFrame place =>
    match place.symbol with
    | some symbol => some (openSymbol symbol place.filePath place.line)
    | none => some (openFile place.filePath place.line)
  | .compilerDiagnostic place =>
    some (openProjectFile place.filePath place.projectFile place.line
      (place.column.getD 1))
  | .traceHeader | .continuation => none

def action : NavigationTarget → Action
  | openSymbol .. => .openSymbol
  | openFile .. => .openFile
  | openProjectFile .. => .openProjectFile

def file : NavigationTarget → String
  | openSymbol _ file _ | openFile file _ | openProjectFile file _ _ _ => file

def line : NavigationTarget → UInt32
  | openSymbol _ _ line | openFile _ line | openProjectFile _ _ line _ => line

/-- A line has a target exactly when it has a location. -/
theorem isSome_ofMatch? (m : LineMatch) :
    (ofMatch? m).isSome = m.location?.isSome := by
  cases m with
  | traceHeader => rfl
  | continuation => rfl
  | stackFrame place =>
    cases h : place.symbol <;> simp [ofMatch?, LineMatch.location?, h]
  | compilerDiagnostic place => rfl

end NavigationTarget

end ConsoleLinks
