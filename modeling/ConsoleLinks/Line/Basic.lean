/-
What a console line can turn out to be: the opening of a trace, a line
that belongs to one without a place of its own, a stack frame or a
compiler diagnostic. Only the last two carry a source location, so a link
can only ever come from them.

Consumed by the line grammars (`Line.Java`, `Line.CSharp`), which produce
these values, and by `Target`, which turns a location into a place to
open.
-/
import ConsoleLinks.Text.Bytes

namespace ConsoleLinks

/-- The kind of a recognized line. -/
inductive MatchKind where
  | traceHeader
  | continuation
  | stackFrame
  | compilerDiagnostic
deriving DecidableEq, Repr

/-- Whether lines of this kind name a place in a source file. -/
def MatchKind.hasLocation : MatchKind → Bool
  | .stackFrame | .compilerDiagnostic => true
  | .traceHeader | .continuation => false

/-- A stretch of a line, in byte offsets from its start. -/
structure Span where
  start : Nat
  stop : Nat
deriving DecidableEq, Repr

/-- The span of `visible` in a line that shows it right after `before`. -/
def Span.after (before visible : List Char) : Span where
  start := Text.byteLength before
  stop := Text.byteLength before + Text.byteLength visible

/-- A place in a source file, as a line shows it. -/
structure SourceLocation where
  /-- The file, exactly as printed. -/
  filePath : String
  line : UInt32
  /-- Diagnostics name a column as well. -/
  column : Option UInt32
  /-- The project a diagnostic was reported for. -/
  projectFile : Option String
  /-- The qualified name of the method a frame is in. -/
  symbol : Option String
  /-- The part of the line that shows the place. -/
  span : Span
deriving DecidableEq, Repr

/-- What a line was recognized as. -/
inductive LineMatch where
  | traceHeader
  | continuation
  | stackFrame (location : SourceLocation)
  | compilerDiagnostic (location : SourceLocation)
deriving DecidableEq, Repr

namespace LineMatch

def kind : LineMatch → MatchKind
  | traceHeader => .traceHeader
  | continuation => .continuation
  | stackFrame _ => .stackFrame
  | compilerDiagnostic _ => .compilerDiagnostic

def location? : LineMatch → Option SourceLocation
  | traceHeader | continuation => none
  | stackFrame place | compilerDiagnostic place => some place

theorem isSome_location? (m : LineMatch) :
    m.location?.isSome = m.kind.hasLocation := by
  cases m <;> rfl

end LineMatch

/-- What a grammar makes of a line. A line can have the shape of a frame
or a diagnostic and still be of no use, when a number in it cannot be a
line or a column; such a line is not tried against any further shape. -/
inductive Verdict where
  | unrelated
  | unusable (fault : String)
  | recognized (found : LineMatch)
deriving DecidableEq, Repr

def Verdict.match? : Verdict → Option LineMatch
  | recognized found => some found
  | unrelated | unusable _ => none

theorem Verdict.match?_eq_some_iff {v : Verdict} {found : LineMatch} :
    v.match? = some found ↔ v = .recognized found := by
  cases v <;> simp [match?]

end ConsoleLinks
