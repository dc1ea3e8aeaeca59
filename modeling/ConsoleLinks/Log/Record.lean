/-
Records of the log file and the session they are written to.

A record is offered over one of three routes, each with a guard of its
own in front of the comparison that all share. A session keeps the
records that pass, in the order they came.
-/
import ConsoleLinks.Log.Level

namespace ConsoleLinks.Log

/-- A record of the log file. -/
structure Record where
  level : Verbosity
  /-- Where the record comes from. -/
  category : String
  message : String
deriving DecidableEq, Repr

namespace Record

/-- A record at the most detailed level. -/
def trace (category message : String) : Record := ⟨.trace, category, message⟩

def debug (category message : String) : Record := ⟨.debug, category, message⟩

def info (category message : String) : Record := ⟨.info, category, message⟩

def error (category message : String) : Record := ⟨.error, category, message⟩

/-- The label of a level, all of one width. -/
def label : Verbosity → String
  | .off => "OFF  "
  | .error => "ERROR"
  | .info => "INFO "
  | .debug => "DEBUG"
  | .trace => "TRACE"

/-- A record as it stands in the file, without its time. -/
def text (r : Record) : String :=
  "[" ++ label r.level ++ "] [" ++ r.category ++ "] " ++ r.message

/-- The lines a record takes: one, and one more for each line break in
it. -/
def lines (r : Record) : List String :=
  (Text.pieces '\n' r.text.toList).map String.ofList

end Record

-- ============================================================= routes

/-- The levels of records that reach the log through the general logging
interface, which knows warnings. -/
inductive Severity where
  | error
  | warn
  | info
  | debug
  | trace
deriving DecidableEq, Repr

namespace Severity

/-- The number of a severity: higher is more detailed. -/
def rank : Severity → Nat
  | error => 1
  | warn => 2
  | info => 3
  | debug => 4
  | trace => 5

/-- The level of the log file that a severity is written at. -/
def verbosity : Severity → Verbosity
  | error | warn => .error
  | info => .info
  | debug => .debug
  | trace => .trace

end Severity

/-- A record on its way to the log. -/
inductive Entry where
  /-- Handed over as finished text. -/
  | direct (level : Verbosity) (category message : String)
  /-- Put into words only when its level is enabled. -/
  | formatted (level : Verbosity) (category message : String)
  /-- Passed on by the general logging interface. -/
  | forwarded (severity : Severity) (category message : String)
deriving DecidableEq, Repr

/-- Whether records of a level are wanted. `off` always is, though no
record of that level is ever written. -/
def isEnabled (threshold level : Verbosity) : Bool :=
  decide (level.rank ≤ threshold.rank)

/-- The highest rank of severity that the general interface passes on. -/
def ceiling : Verbosity → Nat
  | .off => 0
  | .error => Severity.warn.rank
  | .info => Severity.info.rank
  | .debug => Severity.debug.rank
  | .trace => Severity.trace.rank

/-- What is written for a finished record. -/
def write (threshold : Verbosity) (r : Record) : List Record :=
  if isEnabled threshold r.level && r.level ≠ .off then [r] else []

/-- What is written for an entry. -/
def Entry.written (threshold : Verbosity) : Entry → List Record
  | direct level category message => write threshold ⟨level, category, message⟩
  | formatted level category message =>
    if isEnabled threshold level then write threshold ⟨level, category, message⟩
    else []
  | forwarded severity category message =>
    if severity.rank ≤ ceiling threshold && isEnabled threshold severity.verbosity then
      write threshold ⟨severity.verbosity, category, message⟩
    else []

/-- What a session with the given threshold keeps of the records offered
to it. -/
def kept (threshold : Verbosity) (records : List Record) : List Record :=
  records.flatMap (write threshold)

end ConsoleLinks.Log
