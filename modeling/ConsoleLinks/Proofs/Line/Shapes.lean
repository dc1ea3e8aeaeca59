/-
The nine shapes that lines are recognized by. A shape has a pattern, which
says what its lines look like, and a reader, which takes a line and says
what it comes to; the reader accepts a line exactly when the pattern fits
it (`isSome_read?_iff`).

A grammar is a list of shapes: its verdict is that of the first shape to
accept the line (`firstVerdict`). That this is what the grammars do, and
that the order matters to diagnostics alone, is said in `Ambiguity.lean`.
-/
import ConsoleLinks.Proofs.Line.CSharp.Diagnostics
import ConsoleLinks.Proofs.Line.CSharp.Frames
import ConsoleLinks.Proofs.Line.Java.Patterns

namespace ConsoleLinks

open Text Text.Pattern

/-- The shapes of lines that the grammars know. -/
inductive Shape where
  | javaHeader
  | javaFrame
  | javaSourcelessFrame
  | javaElision
  | csharpHeader
  | csharpInnerHeader
  | csharpEndMarker
  | csharpFrame
  | csharpDiagnostic
deriving DecidableEq, Repr

namespace Shape

-- ==================================================== patterns, readers

def pattern : Shape → Pattern
  | javaHeader => Java.headerPattern
  | javaFrame => Java.framePattern
  | javaSourcelessFrame => Java.sourcelessFramePattern
  | javaElision => Java.elisionPattern
  | csharpHeader => CSharp.headerPattern
  | csharpInnerHeader => CSharp.innerHeaderPattern
  | csharpEndMarker => CSharp.endMarkerPattern
  | csharpFrame => CSharp.framePattern
  | csharpDiagnostic => CSharp.diagnosticPattern

/-- The ecosystem whose grammar knows the shape. -/
def ecosystem : Shape → Ecosystem
  | javaHeader | javaFrame | javaSourcelessFrame | javaElision => .java
  | csharpHeader | csharpInnerHeader | csharpEndMarker | csharpFrame
  | csharpDiagnostic => .csharp

/-- The shapes of an ecosystem, in the order they are tried. -/
def inOrder : Ecosystem → List Shape
  | .java => [javaFrame, javaElision, javaSourcelessFrame, javaHeader]
  | .csharp =>
    [csharpFrame, csharpDiagnostic, csharpHeader, csharpInnerHeader, csharpEndMarker]

/-- What a frame with a position comes to. -/
def javaFrameVerdict (l : Java.AtLine) (file number : List Char) : Verdict :=
  match position? number with
  | some n => .recognized (.stackFrame (l.location file number n))
  | none => .unusable "java frame with unusable line number"

/-- What a frame with a source file comes to. -/
def csharpFrameVerdict (f : CSharp.Frame) : Verdict :=
  match position? f.number with
  | some n => .recognized (.stackFrame (f.location n))
  | none => .unusable ".NET frame with unusable capture"

/-- What a diagnostic comes to. -/
def diagnosticVerdict (d : CSharp.Diagnostic) : Verdict :=
  match position? d.lineNumber, position? d.columnNumber with
  | some n, some column => .recognized (.compilerDiagnostic (d.location n column))
  | _, _ => .unusable "diagnostic with unusable capture"

/-- What a line of the shape comes to, or `none` for a line of another
shape. -/
def read? (line : List Char) : Shape → Option Verdict
  | javaHeader => if Java.isHeader line then some (.recognized .traceHeader) else none
  | javaFrame =>
    (Java.AtLine.ofLine? line).bind fun l =>
      match Java.Source.ofText? l.source with
      | some (.position file number) => some (javaFrameVerdict l file number)
      | _ => none
  | javaSourcelessFrame =>
    (Java.AtLine.ofLine? line).bind fun l =>
      match Java.Source.ofText? l.source with
      | some .noPosition => some (.recognized .continuation)
      | _ => none
  | javaElision => if Java.isElision line then some (.recognized .continuation) else none
  | csharpHeader => if CSharp.isHeader line then some (.recognized .traceHeader) else none
  | csharpInnerHeader =>
    if CSharp.isInnerHeader line then some (.recognized .traceHeader) else none
  | csharpEndMarker =>
    if CSharp.isEndMarker line then some (.recognized .continuation) else none
  | csharpFrame => (CSharp.Frame.ofLine? line).map csharpFrameVerdict
  | csharpDiagnostic => (CSharp.Diagnostic.ofLine? line).map diagnosticVerdict

/-- The verdict of the first shape to accept the line. -/
def firstVerdict (line : List Char) (order : List Shape) : Verdict :=
  (order.findSome? (read? line)).getD .unrelated

/-- A reader accepts the lines that its pattern fits. -/
theorem isSome_read?_iff {line : List Char} {s : Shape} :
    (read? line s).isSome = true ↔ s.pattern.Fits line := by
  cases s with
  | javaHeader =>
      rw [pattern, Java.fits_headerPattern, read?, Option.isSome_ite]
  | javaFrame =>
      rw [pattern, Java.fits_framePattern, read?]
      constructor
      · intro h
        obtain ⟨v, hv⟩ := Option.isSome_iff_exists.1 h
        obtain ⟨l, hl, hsource⟩ := Option.bind_eq_some_iff.1 hv
        split at hsource
        next file number hposition => exact ⟨l, file, number, hl, hposition⟩
        next => cases hsource
      · rintro ⟨l, file, number, hl, hposition⟩
        rw [hl, Option.bind_some, hposition]
        rfl
  | javaSourcelessFrame =>
      rw [pattern, Java.fits_sourcelessFramePattern, read?]
      constructor
      · intro h
        obtain ⟨v, hv⟩ := Option.isSome_iff_exists.1 h
        obtain ⟨l, hl, hsource⟩ := Option.bind_eq_some_iff.1 hv
        split at hsource
        next hnone => exact ⟨l, hl, hnone⟩
        next => cases hsource
      · rintro ⟨l, hl, hnone⟩
        rw [hl, Option.bind_some, hnone]
        rfl
  | javaElision =>
      rw [pattern, Java.fits_elisionPattern, read?, Option.isSome_ite]
  | csharpHeader =>
      rw [pattern, CSharp.fits_headerPattern, read?, Option.isSome_ite]
  | csharpInnerHeader =>
      rw [pattern, CSharp.fits_innerHeaderPattern, read?, Option.isSome_ite]
  | csharpEndMarker =>
      rw [pattern, CSharp.fits_endMarkerPattern, read?, Option.isSome_ite]
  | csharpFrame => rw [pattern, CSharp.fits_framePattern, read?, Option.isSome_map]
  | csharpDiagnostic =>
      rw [pattern, CSharp.fits_diagnosticPattern, read?, Option.isSome_map]

end Shape

end ConsoleLinks
