/-
The dispatcher of one console stream. The lines of one printed trace do
not all say whose they are (`... 1 more` carries no mark), so the
customizer that handled the line before is asked first; on a miss all are
asked, in the order they were registered, and when none claims the line
no trace is being followed any more.

What a line comes to (`processLine`) and what it leaves in the log
(`notes`) are separate functions of the same dispatcher and line: a log
cannot change a result.
-/
import ConsoleLinks.Customizer

namespace ConsoleLinks

/-- Whether a trace is being followed, and by which customizer, counted
in the order of registration. -/
inductive Activity where
  | idle
  | active (index : Nat)
deriving DecidableEq, Repr

/-- What became of a line. -/
structure ProcessedLine where
  /-- The text to show. -/
  text : String
  /-- The id of the customizer that handled the line. -/
  customizer : Option String
  /-- Where the link in the text leads. -/
  target : Option NavigationTarget
deriving DecidableEq, Repr

/-- The customizers of a stream, in the order they are asked, and the
trace in progress. -/
structure Dispatcher where
  customizers : List Customizer
  activity : Activity

/-- A claim on a line: who makes it, and what the line comes to. -/
structure Claim where
  index : Nat
  customizer : Customizer
  outcome : Customized

/-- A line without one carriage return at its end, and that carriage
return: streams with two-character line breaks are matched like any
other. -/
def splitReturn (line : String) : String × String :=
  match Text.beforeWord? ['\r'] line.toList with
  | some body => (String.ofList body, "\r")
  | none => (line, "")

namespace Dispatcher

/-- A dispatcher at the start of a stream. -/
def ofCustomizers (customizers : List Customizer) : Dispatcher :=
  ⟨customizers, .idle⟩

/-- Forgets the trace in progress. -/
def reset (d : Dispatcher) : Dispatcher := { d with activity := .idle }

/-- The customizer whose trace is being followed, with its index. -/
def follower? (d : Dispatcher) : Option (Nat × Customizer) :=
  match d.activity with
  | .idle => none
  | .active index => (d.customizers[index]?).map (index, ·)

/-- The id of the customizer whose trace is being followed. -/
def active? (d : Dispatcher) : Option String := d.follower?.map (·.2.id)

/-- The ids of the customizers, in the order they are asked. -/
def ids (d : Dispatcher) : List String := d.customizers.map (·.id)

-- ============================================================== claims

/-- The first of the customizers to claim the line, counted from
`index`. -/
def claimFrom (body : String) (index : Nat) : List Customizer → Option Claim
  | [] => none
  | c :: rest =>
    match c.attempt body with
    | some outcome => some ⟨index, c, outcome⟩
    | none => claimFrom body (index + 1) rest

/-- The claim of the customizer that is being followed. -/
def keep? (d : Dispatcher) (body : String) : Option Claim :=
  d.follower?.bind fun (index, c) => (c.attempt body).map (⟨index, c, ·⟩)

/-- The claim that decides the line. -/
def claim? (d : Dispatcher) (body : String) : Option Claim :=
  match d.keep? body with
  | some claim => some claim
  | none => claimFrom body 0 d.customizers

/-- Processes one line without its line break. -/
def processLine (d : Dispatcher) (line : String) : Dispatcher × ProcessedLine :=
  let (body, ending) := splitReturn line
  match d.claim? body with
  | some claim =>
    ({ d with activity := .active claim.index },
     ⟨claim.outcome.text ++ ending, some claim.customizer.id, claim.outcome.target⟩)
  | none => (d.reset, ⟨body ++ ending, none, none⟩)

/-- Processes one line for the text to show alone. -/
def process (d : Dispatcher) (line : String) : Dispatcher × String :=
  let (next, done) := d.processLine line
  (next, done.text)

/-- Processes lines in order. -/
def processLines (d : Dispatcher) : List String → Dispatcher × List ProcessedLine
  | [] => (d, [])
  | line :: rest =>
    let (next, done) := d.processLine line
    let (last, others) := next.processLines rest
    (last, done :: others)

-- ================================================================ log

/-- What the customizers leave in the log when they are asked in turn
until one claims the line. -/
def askedRemarks (body : String) : List Customizer → List Log.Record
  | [] => []
  | c :: rest =>
    c.remarks body ++ if c.canCustomize body then [] else askedRemarks body rest

/-- What a line leaves in the log. -/
def notes (d : Dispatcher) (line : String) : List Log.Record :=
  let body := (splitReturn line).1
  let quoted := Text.Quoted.quote body
  let asked := match d.follower? with
    | some (_, c) => c.remarks body
    | none => []
  match d.keep? body with
  | some claim =>
    asked ++ [.trace "DISPATCH"
      ("active customizer " ++ claim.customizer.id ++ " kept line: " ++ quoted)]
  | none =>
    asked ++ askedRemarks body d.customizers ++
      match claimFrom body 0 d.customizers with
      | some claim =>
        if d.activity ≠ .active claim.index then
          [.debug "DISPATCH"
            ("customizer " ++ claim.customizer.id ++ " (index=" ++ toString claim.index
              ++ ") became active on: " ++ quoted)]
        else []
      | none =>
        if d.activity ≠ .idle then
          [.trace "DISPATCH" "no customizer claimed line, going idle"]
        else []

/-- What lines leave in the log, in order. -/
def notesOver (d : Dispatcher) : List String → List Log.Record
  | [] => []
  | line :: rest => d.notes line ++ (d.processLine line).1.notesOver rest

end Dispatcher

end ConsoleLinks
