/-
Runs of a dispatcher: what the owner of a stream can ask of it, in any
order and any number. A state is reachable when some list of calls leads
to it from the start of the stream, so a statement about every `run` is
a statement about every reachable state.

Consumed by the run law (`Ownership.lean`) and the linking law
(`Linking.lean`).
-/
import ConsoleLinks.Dispatcher

namespace ConsoleLinks

/-- What can be asked of a dispatcher. -/
inductive Call where
  /-- Process a line and report on it. -/
  | processLine (line : String)
  /-- Process a line for the text to show alone. -/
  | process (line : String)
  /-- Forget the trace in progress. -/
  | reset
deriving DecidableEq, Repr

/-- What a dispatcher answers. -/
inductive Answer where
  | report (processed : ProcessedLine)
  | text (shown : String)
  | none
deriving DecidableEq, Repr

namespace Call

/-- The line that a call hands over, if it does. -/
def line? : Call → Option String
  | processLine line | process line => some line
  | reset => none

/-- The answer to a call, given what became of its line. -/
def answer : Call → Option ProcessedLine → Answer
  | processLine _, some processed => .report processed
  | process _, some processed => .text processed.text
  | _, _ => .none

end Call

namespace Dispatcher

/-- Carries out one call. -/
def call (d : Dispatcher) : Call → Dispatcher × Answer
  | .processLine line =>
    let (next, processed) := d.processLine line
    (next, .report processed)
  | .process line =>
    let (next, shown) := d.process line
    (next, .text shown)
  | .reset => (d.reset, .none)

/-- Carries out calls in order. -/
def run (d : Dispatcher) : List Call → Dispatcher × List Answer
  | [] => (d, [])
  | call :: rest =>
    let (next, answer) := d.call call
    let (last, answers) := next.run rest
    (last, answer :: answers)

-- ======================================================== single calls

/-- A call with a line goes on from where the line leaves the
dispatcher, and answers from what became of the line. -/
theorem call_of_line {c : Call} {line : String} (d : Dispatcher)
    (hc : c.line? = some line) :
    d.call c
      = ((d.processLine line).1, c.answer (some (d.processLine line).2)) := by
  cases c with
  | processLine l =>
      injection hc with hl
      subst hl
      rfl
  | process l =>
      injection hc with hl
      subst hl
      rfl
  | reset => cases hc

/-- A call without a line is a reset. -/
theorem eq_reset_of_line?_eq_none {c : Call} (hc : c.line? = none) :
    c = .reset := by
  cases c with
  | processLine l => cases hc
  | process l => cases hc
  | reset => rfl

-- =============================================================== runs

theorem run_cons (d : Dispatcher) (c : Call) (rest : List Call) :
    d.run (c :: rest)
      = (((d.call c).1.run rest).1,
         (d.call c).2 :: ((d.call c).1.run rest).2) := rfl

/-- A run is carried on where its first part left off. -/
theorem run_append (d : Dispatcher) (first second : List Call) :
    d.run (first ++ second)
      = (((d.run first).1.run second).1,
         (d.run first).2 ++ ((d.run first).1.run second).2) := by
  induction first generalizing d with
  | nil => rfl
  | cons c rest ih =>
      rw [List.cons_append, run_cons, ih, run_cons]
      rfl

end Dispatcher

end ConsoleLinks
