/-
The filter: lines are read from a source, processed by one dispatcher and
written to a sink, each as text or as a JSON record. A source may fail
after some of its bytes, a sink may take no more than so many; either
ends the run, and what was written and the state of the dispatcher are
then those of the lines before.

A source's lines are its bytes between line feeds, read as UTF-8 with
whatever is not UTF-8 replaced.
-/
import ConsoleLinks.Dispatcher
import ConsoleLinks.Target.Json
import ConsoleLinks.Text.Utf8

namespace ConsoleLinks

-- ============================================================= sources

/-- What the filter reads. -/
structure Source where
  /-- The bytes that can be read. -/
  bytes : List UInt8
  /-- The fault that reading on after them meets; `none` at the end of
  the input. -/
  fault : Option String := none

namespace Source

/-- A source that fails when it is read on after `limit` bytes. Input that
is shorter ends before that, and so does any input without a limit. -/
def failingAfter (bytes : List UInt8) (limit : Option Nat) (cause : String) : Source :=
  match limit with
  | some n => if n ≤ bytes.length then ⟨bytes.take n, some cause⟩ else ⟨bytes, none⟩
  | none => ⟨bytes, none⟩

/-- The bytes of each line. A line that a fault cuts short is not one; an
empty one behind the last line feed is not one either. -/
def lineBytes (s : Source) : List (List UInt8) :=
  let all := Text.pieces 0x0a s.bytes
  match s.fault, all.getLast? with
  | none, some (b :: last) => all.dropLast ++ [b :: last]
  | _, _ => all.dropLast

/-- The lines, without their line feeds. -/
def lines (s : Source) : List String :=
  s.lineBytes.map fun line => String.ofList (Text.Utf8.decode line)

end Source

-- ============================================================== output

/-- How processed lines are written. -/
inductive EmitFormat where
  /-- The line as it is shown. -/
  | text
  /-- A record with the line as it is shown, the customizer and the
  target. -/
  | json
deriving DecidableEq, Repr

namespace EmitFormat

def all : List EmitFormat := [text, json]

/-- The name of a format. -/
def name : EmitFormat → String
  | text => "text"
  | json => "json"

/-- The format of an exact name. -/
def ofName? (word : String) : Option EmitFormat := all.find? (·.name = word)

end EmitFormat

/-- A processed line as a record. -/
def ProcessedLine.toJson (p : ProcessedLine) : Json :=
  .object
    [("text", .str p.text),
     ("customizer", (p.customizer.map Json.str).getD .null),
     ("target", (p.target.map NavigationTarget.toJson).getD .null)]

/-- What is written for a processed line, its line feed included. -/
def EmitFormat.written (emit : EmitFormat) (p : ProcessedLine) : List Char :=
  match emit with
  | text => p.text.toList ++ ['\n']
  | json => p.toJson.render ++ ['\n']

/-- The first of the written lines with which the total is longer than
`room` bytes; `sofar` bytes have been written before. -/
def overflow? (room sofar : Nat) : List (List Char) → Option Nat
  | [] => none
  | line :: rest =>
    let total := sofar + Text.byteLength line
    if room < total then some 0 else (overflow? room total rest).map (· + 1)

-- ================================================================ runs

/-- What ends a run early. -/
inductive FilterFault where
  /-- The source failed. -/
  | read (cause : String)
  /-- The sink took no more. -/
  | write
deriving DecidableEq, Repr

namespace FilterFault

/-- What a read that fails was made for. -/
def readPurpose : String := "failed to read input line"

/-- A fault in words, on one line; `full` is what the sink says. -/
def report (full : String) : FilterFault → String
  | read cause => readPurpose ++ ": " ++ cause
  | write => full

end FilterFault

/-- What has come of a run. -/
structure FilterRun where
  /-- The lines that were processed. -/
  lines : List String
  /-- What was written for each of them, the last one missing when the
  sink did not take it. -/
  output : List (List Char)
  /-- The dispatcher after the last of these lines. -/
  dispatcher : Dispatcher
  /-- The fault that ended the run. -/
  fault : Option FilterFault

/-- The text that a run has written. -/
def FilterRun.text (run : FilterRun) : String := String.ofList run.output.flatten

/-- Runs the dispatcher over a source. The sink takes `room` bytes, or
any number. -/
def Dispatcher.filter (d : Dispatcher) (emit : EmitFormat) (source : Source)
    (room : Option Nat) : FilterRun :=
  let lines := source.lines
  let (last, done) := d.processLines lines
  let output := done.map emit.written
  match room.bind (overflow? · 0 output) with
  | some k =>
    let taken := lines.take (k + 1)
    ⟨taken, output.take k, (d.processLines taken).1, some .write⟩
  | none => ⟨lines, output, last, source.fault.map .read⟩

end ConsoleLinks
