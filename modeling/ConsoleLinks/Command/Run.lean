/-
A run of the program: what it prints, what it logs and how it ends, given
its arguments, the files it can read and its standard input.

A run that logs makes the log file anew once the configuration is loaded,
and only then opens what it is to read. That can be the log itself: such a
run reads back what it has written so far, and what it writes about these
lines in turn, for as long as it finds more.
-/
import ConsoleLinks.Command.Options
import ConsoleLinks.Command.Usage
import ConsoleLinks.Config.Load
import ConsoleLinks.Config.Registration
import ConsoleLinks.Log.File
import ConsoleLinks.Queue

namespace ConsoleLinks.Command

/-- What a run finds around it. -/
structure Environment where
  /-- The home directory. -/
  home : Option String
  /-- What the environment says about logging. -/
  debugLevel : Option String
  /-- What reading the files comes to, as the run finds them. -/
  files : Files
  standardInput : List UInt8
  /-- Whether the log file can be written; a run that cannot goes on without
  a log. -/
  canLog : Bool := true
  /-- Where paths lead while the log is there. -/
  logRoute : String → Log.Route := Log.Route.ofPath
  /-- Whether the standard input is the log file, and not some bytes that
  do not depend on the run. -/
  standardInputIsLog : Bool := false
  /-- The times at which the log is written. -/
  clock : Log.Clock := fun _ => none

/-- What a run comes to. -/
structure Outcome where
  exit : Nat
  stdout : String
  stderr : String
  /-- The lines of the log; none when nothing is logged. -/
  log : Option (List String)
deriving DecidableEq, Repr

namespace Outcome

/-- A run that ends before anything is logged. -/
def early (exit : Nat) (stdout stderr : String) : Outcome := ⟨exit, stdout, stderr, none⟩

/-- A run that prints what was asked for, or what is wrong with the
arguments. -/
def ofStop : Stop → Outcome
  | .help true => early 0 longHelp ""
  | .help false => early 0 shortHelp ""
  | .version => early 0 versionText ""
  | .fault f => early 2 "" ("error: " ++ f.message ++ "\n")

end Outcome

-- ============================================================== config

/-- What is printed when the configuration cannot be loaded. -/
def configFailure (name : Option String) (fault : Config.LoadFault) : String :=
  "tracelink: error: failed to load config"
    ++ (match name with
        | some path => " " ++ path
        | none => "")
    ++ ": " ++ fault.report ++ "\n"

-- ================================================================= log

/-- The threshold of a run's log beside a configured level; `off` when
nothing is logged. -/
def Environment.threshold (env : Environment) (configured : LogLevel) : Verbosity :=
  if env.canLog then Verbosity.inForce env.debugLevel configured else .off

/-- What a run over some lines leaves in the log. -/
def records (c : Config) (lines : List String) : List Log.Record :=
  [.info "tracelink" "Starting tracelink filter"]
    ++ c.registrationRemarks
    ++ [.info "tracelink::cli"
          ("Filtering with customizers [" ++ String.intercalate ", " c.dispatcher.ids ++ "]")]
    ++ c.dispatcher.notesOver lines

/-- The lines of the log at a threshold. -/
def logLines (clock : Log.Clock) (threshold : Verbosity) (records : List Log.Record) :
    Option (List String) :=
  if threshold = .off then none
  else some (Log.fileLines clock threshold (Log.kept threshold records))

-- =============================================================== input

/-- What is to be read of what the run has found: the standard input or a
file. A directory can be opened, but not read. -/
def source (env : Environment) (input : Option String) : Except FileFault Source :=
  match input with
  | none => .ok ⟨env.standardInput, none⟩
  | some path =>
    match env.files path with
    | .ok bytes => .ok ⟨bytes, none⟩
    | .error .directory => .ok ⟨[], some (FileFault.message .directory)⟩
    | .error fault => .error fault

/-- What a run reads. -/
inductive Input where
  | source (s : Source)
  /-- The log that the run writes. -/
  | log

/-- Where the input lies, seen from the log. -/
def Environment.route (env : Environment) : Option String → Log.Route
  | none => if env.standardInputIsLog then .log else .apart
  | some path => env.logRoute path

/-- What there is to be read once the log is open. -/
def Environment.opened (env : Environment) (threshold : Verbosity) (input : Option String) :
    Except FileFault Input :=
  match if threshold = .off then .apart else env.route input with
  | .apart => (source env input).map .source
  | .log => .ok .log
  | .refused fault => .error fault

/-- A dispatcher on its way through the log that it writes. -/
structure LogReader where
  dispatcher : Dispatcher
  /-- How many things have been written to the log. -/
  written : Nat
  /-- The lines that have been read. -/
  lines : List String := []

/-- Reads the next line of the log, and adds what this line leaves there. -/
def LogReader.step (clock : Log.Clock) (threshold : Verbosity) (r : LogReader)
    (line : String) : LogReader × List String :=
  let records := Log.kept threshold (r.dispatcher.notes line)
  (⟨(r.dispatcher.processLine line).1, r.written + records.length, r.lines ++ [line]⟩,
   Log.recordLines clock r.written records)

/-- The lines that a run reads of the log that it writes; `none` when there
is always one more. -/
def ownLines (clock : Log.Clock) (threshold : Verbosity) (c : Config) :
    Option (List String) :=
  let opening := Log.kept threshold (records c [])
  (Queue.drain (LogReader.step clock threshold) ⟨c.dispatcher, opening.length + 1, []⟩
    (Log.fileLines clock threshold opening)).map LogReader.lines

-- ================================================================ runs

/-- A failure and its cause, as they are printed. -/
def failure (message cause : String) : String :=
  "Error: " ++ message ++ "\n\nCaused by:\n    " ++ cause ++ "\n"

/-- What is printed for some lines. -/
def shown (o : Options) (c : Config) (lines : List String) : String :=
  String.ofList ((c.dispatcher.processLines lines).2.map o.emitFormat.written).flatten

/-- A run with options and a configuration; `none` when it never ends. -/
def filterWith (env : Environment) (o : Options) (c : Config) : Option Outcome :=
  let threshold := env.threshold (o.effectiveLevel c.logLevel)
  let log lines := logLines env.clock threshold (records c lines)
  match env.opened threshold o.input with
  | .error fault =>
    some ⟨1, "", failure ("failed to open " ++ o.input.getD "") fault.message, log []⟩
  | .ok (.source source) =>
    let run := c.dispatcher.filter o.emitFormat source none
    match run.fault with
    | some (.read cause) =>
      some ⟨1, run.text, failure FilterFault.readPurpose cause, log run.lines⟩
    | some .write | none => some ⟨0, run.text, "", log run.lines⟩
  | .ok .log =>
    (ownLines env.clock threshold c).map fun lines => ⟨0, shown o c lines, "", log lines⟩

/-- The paths of the files that a run can read. -/
def paths (home : Option String) (arguments : List String) : List String :=
  match Options.parse arguments with
  | .error _ => []
  | .ok o => o.config.getD (Config.path home) :: o.input.toList

/-- Whether a run reads its standard input. -/
def readsStandardInput (env : Environment) (arguments : List String) : Bool :=
  match Options.parse arguments with
  | .error _ => false
  | .ok o =>
    o.input.isNone && (Config.loadNamed env.files env.home o.config).isOk

/-- A run of the program; `none` when it never ends, as can happen to one
that reads its own log. -/
def run? (env : Environment) (arguments : List String) : Option Outcome :=
  match Options.parse arguments with
  | .error stop => some (.ofStop stop)
  | .ok o =>
    match Config.loadNamed env.files env.home o.config with
    | .error fault => some (.early 2 "" (configFailure o.config fault))
    | .ok c => filterWith env o c

/-- What a run of the program comes to. Of one that never ends nothing can
be said, and working it out does not end either. -/
def run (env : Environment) (arguments : List String) : Outcome :=
  (run? env arguments).getD (.early 0 "" "")

end ConsoleLinks.Command
