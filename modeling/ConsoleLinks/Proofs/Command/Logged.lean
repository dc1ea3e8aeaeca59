/-
The program with its log open, and what the environment's setting of the
log level can change.

# The program that writes as it goes

`runIn?` is a run in which every entry is offered to the journal where it
comes up: when the filter starts, when customizers are registered, and line
by line while they are asked. When the input is the log itself, the lines to
be read are those that the journal gains. It is the run of the program
(`runIn?_eq_run?`), whose log is put together from what the parts say they
leave.

# The setting

Arguments, files and input decide whether a run comes to filter anything,
and with what; the setting decides the threshold of the journal. Where the
input lies apart from the log it decides nothing else: runs that differ in
it end in the same way and print the same (`run?_of_apart`), and what they
log is what one and the same list of records leaves at their thresholds.

But a run that logs makes the log anew before it opens its input. An input
that is the log, or lies behind it, is then not the one that a run without a
log finds (`run?_of_log`, `run?_of_refused`), and the exit code depends on
the setting (`exit_depends_on_setting`).
-/
import ConsoleLinks.Proofs.Command.OwnLog
import ConsoleLinks.Proofs.Dispatcher.Logged

namespace ConsoleLinks

open Log (Journal)

namespace Log.Journal

/-- The lines of the file that a journal is written to. -/
def fileLines (clock : Log.Clock) (j : Journal) : List String :=
  Log.fileLines clock j.threshold j.records

/-- The lines of a log file; there is none when nothing is logged. -/
def lines (clock : Log.Clock) (j : Journal) : Option (List String) :=
  if j.threshold = .off then none else some (j.fileLines clock)

end Log.Journal

namespace Command

variable {clock : Log.Clock} {threshold : Verbosity} {env : Environment} {o : Options}
  {c : Config} {arguments : List String}

-- ==================================================== runs that log as they go

/-- What is offered to the log before the first line is read. -/
def openingEntries (c : Config) : List Log.Entry :=
  .forwarded .info "tracelink" "Starting tracelink filter"
    :: c.registrationRemarks.map Log.Record.formatted
    ++ [.forwarded .info "tracelink::cli"
        ("Filtering with customizers [" ++ String.intercalate ", " c.dispatcher.ids ++ "]")]

/-- A dispatcher on its way through the log that it writes, with the log
open. -/
structure JournalReader where
  journal : Journal
  dispatcher : Dispatcher
  processed : List ProcessedLine := []

/-- Processes the next line of the log, and adds what the journal gains. -/
def JournalReader.step (clock : Log.Clock) (r : JournalReader) (line : String) :
    JournalReader × List String :=
  let (j, next, p) := r.dispatcher.processLineIn line r.journal
  (⟨j, next, r.processed ++ [p]⟩,
   Log.recordLines clock (r.journal.records.length + 1)
    (j.records.drop r.journal.records.length))

/-- A run with options and a configuration, its log written as it goes. -/
def filterIn (env : Environment) (o : Options) (c : Config) : Option Outcome :=
  let threshold := env.threshold (o.effectiveLevel c.logLevel)
  let j : Journal := { threshold := threshold }
  let j := j.offerAll (openingEntries c)
  let text processed := String.ofList (processed.map o.emitFormat.written).flatten
  match env.opened threshold o.input with
  | .error fault =>
    some ⟨1, "", failure ("failed to open " ++ o.input.getD "") fault.message,
      j.lines env.clock⟩
  | .ok (.source source) =>
    let (j, _, processed) := c.dispatcher.processLinesIn j source.lines
    match source.fault with
    | some cause =>
      some ⟨1, text processed, failure FilterFault.readPurpose cause, j.lines env.clock⟩
    | none => some ⟨0, text processed, "", j.lines env.clock⟩
  | .ok .log =>
    (Queue.drain (JournalReader.step env.clock) ⟨j, c.dispatcher, []⟩
        (j.fileLines env.clock)).map
      fun r => ⟨0, text r.processed, "", r.journal.lines env.clock⟩

/-- A run of the program, its log written as it goes. -/
def runIn? (env : Environment) (arguments : List String) : Option Outcome :=
  match Options.parse arguments with
  | .error stop => some (.ofStop stop)
  | .ok o =>
    match Config.loadNamed env.files env.home o.config with
    | .error fault => some (.early 2 "" (configFailure o.config fault))
    | .ok c => filterIn env o c

-- ============================================================ the same runs

/-- The journal of a run when some lines have been processed. -/
def journalAfter (threshold : Verbosity) (c : Config) (lines : List String) : Journal :=
  ⟨threshold, Log.kept threshold (records c lines)⟩

/-- Before the first line the journal holds what came by either route. -/
theorem offerAll_openingEntries (threshold : Verbosity) (c : Config) :
    Journal.offerAll { threshold := threshold } (openingEntries c)
      = journalAfter threshold c [] := by
  have hinfo : ∀ category message,
      (Log.Entry.forwarded .info category message).written threshold
        = Log.write threshold (.info category message) := by
    intro category message
    cases threshold <;> rfl
  rw [Journal.offerAll_eq]
  unfold journalAfter openingEntries records Log.kept
  simp only [List.flatMap_append, List.flatMap_cons, List.flatMap_nil, hinfo,
    Log.written_formatted, Log.kept, Dispatcher.notesOver, List.append_nil, List.nil_append]

/-- What finished records leave in a journal. -/
theorem offerAll_formatted (j : Journal) (records : List Log.Record) :
    j.offerAll (records.map Log.Record.formatted)
      = { j with records := j.records ++ Log.kept j.threshold records } := by
  rw [Journal.offerAll_eq, Log.written_formatted]

theorem journalAfter_lines (threshold : Verbosity) (c : Config) (lines : List String) :
    (journalAfter threshold c []).offerAll
        ((c.dispatcher.notesOver lines).map Log.Record.formatted)
      = journalAfter threshold c lines := by
  rw [offerAll_formatted]
  unfold journalAfter
  rw [kept_records threshold c lines]

theorem journalAfter_line (threshold : Verbosity) (c : Config) (lines : List String)
    (line : String) :
    (journalAfter threshold c lines).offerAll
        (((c.dispatcher.processLines lines).1.notes line).map Log.Record.formatted)
      = journalAfter threshold c (lines ++ [line]) := by
  rw [offerAll_formatted]
  unfold journalAfter
  rw [kept_records_append]

/-- A reader of the log and a reader with the log open that have read the
same lines. -/
structure Beside (threshold : Verbosity) (c : Config) (r : LogReader) (t : JournalReader) :
    Prop extends Abreast threshold c r where
  journal_eq : t.journal = journalAfter threshold c r.lines
  same_dispatcher : t.dispatcher = r.dispatcher
  processed_eq : t.processed = (c.dispatcher.processLines r.lines).2

/-- They make the same of the next line, and add the same to the log. -/
theorem Beside.step {r : LogReader} {t : JournalReader} (h : Beside threshold c r t)
    (line : String) :
    Beside threshold c (r.step clock threshold line).1 (t.step clock line).1
      ∧ (r.step clock threshold line).2 = (t.step clock line).2 := by
  have hjournal : t.journal.offerAll ((r.dispatcher.notes line).map Log.Record.formatted)
      = journalAfter threshold c (r.lines ++ [line]) := by
    rw [h.journal_eq, h.dispatcher_eq]
    exact journalAfter_line threshold c r.lines line
  have hstep : t.step clock line
      = (⟨journalAfter threshold c (r.lines ++ [line]), (r.dispatcher.processLine line).1,
          t.processed ++ [(r.dispatcher.processLine line).2]⟩,
        Log.recordLines clock (t.journal.records.length + 1)
          ((journalAfter threshold c (r.lines ++ [line])).records.drop
            t.journal.records.length)) := by
    unfold JournalReader.step
    rw [h.same_dispatcher, Dispatcher.processLineIn_eq, hjournal]
  rw [hstep]
  refine ⟨⟨h.toAbreast.step clock line, rfl, rfl, ?_⟩, ?_⟩
  · show t.processed ++ _ = (c.dispatcher.processLines (r.lines ++ [line])).2
    rw [h.toAbreast.processLines, h.processed_eq]
  · show Log.recordLines clock r.written _
      = Log.recordLines clock (t.journal.records.length + 1)
          ((Log.kept threshold (records c (r.lines ++ [line]))).drop t.journal.records.length)
    rw [h.written_eq, h.toAbreast.kept_records, h.journal_eq]
    exact congrArg _ List.drop_left.symm

/-- A run through its own log makes the same of it with the log open. -/
theorem drain_journal (clock : Log.Clock) (threshold : Verbosity) (o : Options) (c : Config) :
    (Queue.drain (JournalReader.step clock) ⟨journalAfter threshold c [], c.dispatcher, []⟩
        ((journalAfter threshold c []).fileLines clock)).map
      (fun r => Outcome.mk 0 (String.ofList (r.processed.map o.emitFormat.written).flatten) ""
        (r.journal.lines clock))
    = (ownLines clock threshold c).map fun lines =>
        ⟨0, shown o c lines, "", logLines clock threshold (records c lines)⟩ := by
  unfold ownLines
  rw [Option.map_map]
  refine (Queue.drain_map_eq (R := Beside threshold c) (fun r t line h => h.step line)
    (fun r t h => ?_) ⟨⟨rfl, rfl⟩, rfl, rfl, rfl⟩ _).symm
  rw [h.processed_eq, h.journal_eq]
  rfl

/-- Without a limit on its output the filter reads all lines of a source. -/
theorem filter_of_no_room (d : Dispatcher) (emit : EmitFormat) (source : Source) :
    d.filter emit source none
      = ⟨source.lines, (d.processLines source.lines).2.map emit.written,
          (d.processLines source.lines).1, source.fault.map .read⟩ := rfl

/-- Writing the log as it goes changes nothing about a run. -/
theorem filterIn_eq_filterWith (env : Environment) (o : Options) (c : Config) :
    filterIn env o c = filterWith env o c := by
  unfold filterIn filterWith
  dsimp only
  rw [offerAll_openingEntries]
  cases env.opened (env.threshold (o.effectiveLevel c.logLevel)) o.input with
  | error fault => rfl
  | ok input =>
      cases input with
      | source source =>
          dsimp only
          rw [Dispatcher.processLinesIn_eq, journalAfter_lines, filter_of_no_room]
          dsimp only
          cases source.fault with
          | none => rfl
          | some cause => rfl
      | log => exact drain_journal env.clock _ o c

theorem runIn?_eq_run? (env : Environment) (arguments : List String) :
    runIn? env arguments = run? env arguments := by
  unfold runIn? run?
  cases Options.parse arguments with
  | error stop => rfl
  | ok o =>
      dsimp only
      cases Config.loadNamed env.files env.home o.config with
      | error fault => rfl
      | ok c => exact filterIn_eq_filterWith env o c

-- ============================================================= the setting

/-- The environment with another setting of the log level. -/
def Environment.withSetting (env : Environment) (setting : Option String) : Environment :=
  { env with debugLevel := setting }

/-- The arguments and the configuration with which a run comes to filter. -/
def Filters (env : Environment) (arguments : List String) (o : Options) (c : Config) : Prop :=
  Options.parse arguments = .ok o ∧ Config.loadNamed env.files env.home o.config = .ok c

/-- If a run comes to read anything, that lies apart from the log. -/
def ReadsApart (env : Environment) (arguments : List String) : Prop :=
  ∀ o c, Filters env arguments o c → env.route o.input = .apart

/-- The lines of the input as the run finds it. -/
def foundLines (env : Environment) (input : Option String) : List String :=
  match source env input with
  | .error _ => []
  | .ok source => source.lines

/-- What the input comes to as the run finds it, but for a log. -/
def filtered (env : Environment) (o : Options) (c : Config) : Outcome :=
  match source env o.input with
  | .error fault =>
    .early 1 "" (failure ("failed to open " ++ o.input.getD "") fault.message)
  | .ok source =>
    match source.fault with
    | some cause => .early 1 (shown o c source.lines) (failure FilterFault.readPurpose cause)
    | none => .early 0 (shown o c source.lines) ""

/-- What a run comes to that has no log. The setting has no part in it. -/
def unlogged (env : Environment) (arguments : List String) : Outcome :=
  match Options.parse arguments with
  | .error stop => .ofStop stop
  | .ok o =>
    match Config.loadNamed env.files env.home o.config with
    | .error fault => .early 2 "" (configFailure o.config fault)
    | .ok c => filtered env o c

/-- What a run that comes to filter anything has to log: the level that is
configured, and the records at the most detailed threshold. -/
def session? (env : Environment) (arguments : List String) :
    Option (LogLevel × List Log.Record) :=
  match Options.parse arguments with
  | .error _ => none
  | .ok o =>
    match Config.loadNamed env.files env.home o.config with
    | .error _ => none
    | .ok c =>
      some (o.effectiveLevel c.logLevel,
        Log.kept .trace (records c (foundLines env o.input)))

/-- The log of a run with a setting: what its threshold leaves of the records
at the most detailed one. -/
def logAt (env : Environment) (arguments : List String) (setting : Option String) :
    Option (List String) :=
  (session? env arguments).bind fun (level, records) =>
    let threshold := (env.withSetting setting).threshold level
    (Journal.mk threshold (records.filter (Log.keeps threshold))).lines env.clock

theorem run?_of_filters (h : Filters env arguments o c) :
    run? env arguments = filterWith env o c := by
  unfold run?
  rw [h.1]
  dsimp only
  rw [h.2]

theorem unlogged_of_filters (h : Filters env arguments o c) :
    unlogged env arguments = filtered env o c := by
  unfold unlogged
  rw [h.1]
  dsimp only
  rw [h.2]

theorem logAt_of_filters (h : Filters env arguments o c) (setting : Option String) :
    logAt env arguments setting
      = (Journal.mk ((env.withSetting setting).threshold (o.effectiveLevel c.logLevel))
          ((Log.kept .trace (records c (foundLines env o.input))).filter
            (Log.keeps ((env.withSetting setting).threshold
              (o.effectiveLevel c.logLevel))))).lines env.clock := by
  unfold logAt session?
  rw [h.1]
  dsimp only
  rw [h.2]
  rfl

/-- What a run without a log comes to has none. -/
theorem filtered_log (env : Environment) (o : Options) (c : Config) :
    (filtered env o c).log = none := by
  unfold filtered
  cases source env o.input with
  | error fault => rfl
  | ok source =>
      dsimp only
      cases source.fault with
      | none => rfl
      | some cause => rfl

/-- A threshold keeps of finished records what the most detailed one does,
less those of higher levels. -/
theorem kept_eq_filter (threshold : Verbosity) (records : List Log.Record) :
    Log.kept threshold records
      = (Log.kept .trace records).filter (Log.keeps threshold) := by
  rw [← Log.written_formatted, ← Log.written_formatted, ← Log.written_eq_filter]

theorem logLines_eq (clock : Log.Clock) (threshold : Verbosity) (records : List Log.Record) :
    logLines clock threshold records
      = (Journal.mk threshold ((Log.kept .trace records).filter
          (Log.keeps threshold))).lines clock := by
  rw [← kept_eq_filter]
  rfl

-- ------------------------------------------------ input that is as it was found

/-- What lies apart from the log is read as it is found. -/
theorem opened_of_apart {input : Option String} (h : env.route input = .apart)
    (threshold : Verbosity) :
    env.opened threshold input = (source env input).map .source := by
  unfold Environment.opened
  rw [h, ite_self]

/-- So is everything when nothing is logged. -/
theorem opened_of_off (env : Environment) (input : Option String) :
    env.opened .off input = (source env input).map .source := by
  unfold Environment.opened
  rw [if_pos rfl]

/-- A run that reads its input as it is found logs what the lines of the
input leave. -/
theorem filterWith_of_opened
    (h : env.opened (env.threshold (o.effectiveLevel c.logLevel)) o.input
      = (source env o.input).map .source) :
    filterWith env o c
      = some { filtered env o c with
          log := logLines env.clock (env.threshold (o.effectiveLevel c.logLevel))
            (records c (foundLines env o.input)) } := by
  unfold filterWith filtered foundLines
  dsimp only
  rw [h]
  cases source env o.input with
  | error fault => rfl
  | ok source =>
      simp only [Except.map, filter_of_no_room]
      cases source.fault with
      | none => rfl
      | some cause => rfl

/-- Where the input lies apart from the log, the setting decides what is
logged and nothing else. -/
theorem run?_of_apart (h : ReadsApart env arguments) (setting : Option String) :
    run? (env.withSetting setting) arguments
      = some { unlogged env arguments with log := logAt env arguments setting } := by
  cases hparse : Options.parse arguments with
  | error stop =>
      simp only [run?, unlogged, logAt, session?, hparse, Option.bind_none]
      cases stop with
      | help long => cases long <;> rfl
      | version => rfl
      | fault f => rfl
  | ok o =>
      cases hload : Config.loadNamed env.files env.home o.config with
      | error fault =>
          have hload' : Config.loadNamed (env.withSetting setting).files
              (env.withSetting setting).home o.config = .error fault := hload
          simp only [run?, unlogged, logAt, session?, hparse, hload, hload', Option.bind_none]
          rfl
      | ok c =>
          have hfilters : Filters env arguments o c := ⟨hparse, hload⟩
          have hroute : (env.withSetting setting).route o.input = .apart := h o c hfilters
          have hrun : run? (env.withSetting setting) arguments = _ :=
            run?_of_filters hfilters
          rw [hrun, filterWith_of_opened (opened_of_apart hroute _), logLines_eq,
            unlogged_of_filters hfilters, logAt_of_filters hfilters]
          rfl

/-- A run that does not log finds its input as it is, wherever that lies. -/
theorem run?_of_off (h : Filters env arguments o c)
    (hoff : env.threshold (o.effectiveLevel c.logLevel) = .off) :
    run? env arguments = some (unlogged env arguments) := by
  have hopened : env.opened (env.threshold (o.effectiveLevel c.logLevel)) o.input
      = (source env o.input).map .source := by
    rw [hoff]
    exact opened_of_off env o.input
  have hlog : logLines env.clock .off (records c (foundLines env o.input))
      = (filtered env o c).log := (filtered_log env o c).symm
  rw [run?_of_filters h, filterWith_of_opened hopened, hoff, unlogged_of_filters h, hlog]

-- ------------------------------------------------------- input that is the log

/-- A run that reads its own log, if it ends, ends well, and prints what its
dispatcher makes of the lines of the log. -/
theorem run?_of_log (h : Filters env arguments o c)
    (hon : env.threshold (o.effectiveLevel c.logLevel) ≠ .off) (hroute : env.route o.input = .log) :
    run? env arguments
      = (ownLines env.clock (env.threshold (o.effectiveLevel c.logLevel)) c).map fun lines =>
          ⟨0, shown o c lines, "", some lines⟩ := by
  have hopened : env.opened (env.threshold (o.effectiveLevel c.logLevel)) o.input = .ok .log := by
    unfold Environment.opened
    rw [if_neg hon, hroute]
  rw [run?_of_filters h]
  unfold filterWith
  dsimp only
  rw [hopened]
  dsimp only
  refine Option.map_congr fun lines hlines => ?_
  unfold logLines
  rw [if_neg hon, ← ownLines_eq_fileLines hlines]

/-- A run whose input lies behind the log does not come to read it. -/
theorem run?_of_refused {fault : FileFault} (h : Filters env arguments o c)
    (hon : env.threshold (o.effectiveLevel c.logLevel) ≠ .off)
    (hroute : env.route o.input = .refused fault) :
    run? env arguments
      = some ⟨1, "", failure ("failed to open " ++ o.input.getD "") fault.message,
          logLines env.clock (env.threshold (o.effectiveLevel c.logLevel)) (records c [])⟩ := by
  have hopened : env.opened (env.threshold (o.effectiveLevel c.logLevel)) o.input
      = .error fault := by
    unfold Environment.opened
    rw [if_neg hon, hroute]
  rw [run?_of_filters h]
  unfold filterWith
  dsimp only
  rw [hopened]

-- ================================================================ the law

/-- Logging disturbs only what is read of the log, and a level only filters
the log. A run with its log written as it goes is the run. Where the input
lies apart from the log, all settings of the level give the same exit code
and the same output on both channels, which are those of a run without a
log; and the log is what the threshold leaves of one list of records. Where
it does not, that still holds of a run that logs nothing; a run that logs and
reads its own log ends well, if it ends, as it does below the level of
debugging, and prints what its dispatcher makes of the lines of its log; and
a run that logs cannot open what lies behind the log.

A dispatcher with its log open makes of any lines what it makes of them
without one, at every threshold; and what it writes is, in the same order,
what it writes at the most detailed threshold, less the records of higher
levels, and nothing when logging is off. -/
theorem disturbs_only_reading_log (env : Environment) (arguments : List String) :
    (∀ setting, runIn? (env.withSetting setting) arguments
      = run? (env.withSetting setting) arguments)
    ∧ (ReadsApart env arguments → ∀ setting, run? (env.withSetting setting) arguments
        = some { unlogged env arguments with log := logAt env arguments setting })
    ∧ (∀ o c setting, Filters env arguments o c →
        let outcome? := run? (env.withSetting setting) arguments
        let threshold := (env.withSetting setting).threshold (o.effectiveLevel c.logLevel)
        (threshold = .off → outcome? = some (unlogged env arguments))
          ∧ (threshold ≠ .off → env.route o.input = .log →
              (∀ outcome, outcome? = some outcome →
                ∃ lines, outcome = ⟨0, shown o c lines, "", some lines⟩)
              ∧ (threshold.rank < Verbosity.debug.rank → ∃ outcome, outcome? = some outcome))
          ∧ (threshold ≠ .off → ∀ fault, env.route o.input = .refused fault →
              ∃ log, outcome? = some ⟨1, "",
                failure ("failed to open " ++ o.input.getD "") fault.message, log⟩))
    ∧ ∀ (d : Dispatcher) (lines : List String) (threshold : Verbosity),
        let logged := d.processLinesIn { threshold := threshold } lines
        let logged' := d.processLinesIn { threshold := .trace } lines
        logged.2 = d.processLines lines
          ∧ logged.1.records = logged'.1.records.filter
              (fun r => decide (r.level.rank ≤ threshold.rank))
          ∧ (d.processLinesIn { threshold := .off } lines).1.records = [] := by
  refine ⟨fun setting => runIn?_eq_run? _ arguments, fun h setting => run?_of_apart h setting,
    fun o c setting h => ?_, fun d lines threshold => ?_⟩
  · have hfilters : Filters (env.withSetting setting) arguments o c := h
    refine ⟨fun hoff => run?_of_off hfilters hoff, fun hon hroute => ⟨?_, ?_⟩, ?_⟩
    · intro outcome houtcome
      rw [run?_of_log hfilters hon hroute] at houtcome
      obtain ⟨lines, -, hlines⟩ := Option.map_eq_some_iff.1 houtcome
      exact ⟨lines, hlines.symm⟩
    · intro hquiet
      rw [run?_of_log hfilters hon hroute, ownLines_of_quiet _ c hquiet]
      exact ⟨_, rfl⟩
    · intro hon fault hroute
      exact ⟨_, run?_of_refused hfilters hon hroute⟩
  · have hrecords : ∀ t : Verbosity,
        (d.processLinesIn { threshold := t } lines).1.records
          = ((d.notesOver lines).map Log.Record.formatted).flatMap
              (Log.Entry.written t) := by
      intro t
      rw [Dispatcher.processLinesIn_eq, Journal.offerAll_eq]
      rfl
    refine ⟨by rw [Dispatcher.processLinesIn_eq], ?_, ?_⟩
    · rw [hrecords, hrecords, Log.written_eq_filter]
      rfl
    · rw [hrecords, Log.written_off]

/-- A file in the working directory lies apart from the log: with any setting
its one line is printed, and the run ends well. -/
theorem disturbs_only_reading_log_elsewhere :
    let env : Environment :=
      { home := none, debugLevel := none,
        files := fun path => if path = "build.log" then .ok [0x6f, 0x6b, 0x0a] else .error .missing,
        standardInput := [] }
    ReadsApart env ["build.log"]
      ∧ (∀ setting, run? (env.withSetting setting) ["build.log"]
          = some { unlogged env ["build.log"] with log := logAt env ["build.log"] setting })
      ∧ (unlogged env ["build.log"]).exit = 0
      ∧ (unlogged env ["build.log"]).stdout = "ok\n" := by
  intro env
  have happart : ReadsApart env ["build.log"] := by
    intro o c h
    have hparse : Options.parse ["build.log"] = .ok { input := some "build.log" } := rfl
    rw [h.1] at hparse
    injection hparse with ho
    rw [ho]
    decide
  exact ⟨happart, (disturbs_only_reading_log env ["build.log"]).2.1 happart,
    by decide +kernel, by decide +kernel⟩

/-- The exit code and what is printed do depend on the setting. Where there is
no log yet, a run that is told to read it fails when nothing is logged, and
else prints the log that it has just begun; and a path that leads on behind
the log leads nowhere for one reason without a log and for another with
one. -/
theorem exit_depends_on_setting :
    let env : Environment :=
      { home := none, debugLevel := none, files := fun _ => .error .missing,
        standardInput := [], clock := fun _ => some "1700000000.000000" }
    let ends (setting : Option String) (path : String) :=
      (run? (env.withSetting setting) [path]).map fun outcome =>
        (outcome.exit, outcome.stdout, outcome.stderr)
    ends none "/tmp/tracelink_debug.log"
        = some (1, "", "Error: failed to open /tmp/tracelink_debug.log\n\n"
            ++ "Caused by:\n    No such file or directory (os error 2)\n")
      ∧ ends (some "2") "/tmp/tracelink_debug.log"
        = some (0, shown { input := some "/tmp/tracelink_debug.log" } {}
            (Log.fileLines env.clock .info (Log.kept .info (records {} []))), "")
      ∧ ends none "/tmp/tracelink_debug.log/x"
        = some (1, "", "Error: failed to open /tmp/tracelink_debug.log/x\n\n"
            ++ "Caused by:\n    No such file or directory (os error 2)\n")
      ∧ ends (some "2") "/tmp/tracelink_debug.log/x"
        = some (1, "", "Error: failed to open /tmp/tracelink_debug.log/x\n\n"
            ++ "Caused by:\n    Not a directory (os error 20)\n") := by
  intro env ends
  have hlog : ∀ setting, Filters (env.withSetting setting) ["/tmp/tracelink_debug.log"]
      { input := some "/tmp/tracelink_debug.log" } {} := fun _ => ⟨by rfl, by rfl⟩
  have hbehind : ∀ setting, Filters (env.withSetting setting) ["/tmp/tracelink_debug.log/x"]
      { input := some "/tmp/tracelink_debug.log/x" } {} := fun _ => ⟨by rfl, by rfl⟩
  have hinfo : (env.withSetting (some "2")).threshold .off = .info := by decide
  have hon : (env.withSetting (some "2")).threshold .off ≠ .off := by
    rw [hinfo]
    decide
  have hquiet : ((env.withSetting (some "2")).threshold .off).rank < Verbosity.debug.rank := by
    rw [hinfo]
    decide
  refine ⟨?_, ?_, ?_, ?_⟩
  · exact congrArg (Option.map _) (run?_of_off (hlog none) rfl)
  · have hroute : (env.withSetting (some "2")).route (some "/tmp/tracelink_debug.log")
        = .log := by decide
    have hrun := (run?_of_log (hlog (some "2")) hon hroute).trans
      (congrArg (Option.map _) (ownLines_of_quiet _ {} hquiet))
    exact congrArg (Option.map _) hrun
  · exact congrArg (Option.map _) (run?_of_off (hbehind none) rfl)
  · have hroute : (env.withSetting (some "2")).route (some "/tmp/tracelink_debug.log/x")
        = .refused .notDirectory := by decide
    exact congrArg (Option.map _) (run?_of_refused (hbehind (some "2")) hon hroute)

end Command

end ConsoleLinks
