/-
A run that reads the log it writes.

What it has read and what it has still to read are together the log as it
stands (`Behind`): each line that is read leaves records at the end of the
log, and these are read in turn. So a run that comes to an end has read its
whole log (`ownLines_eq_fileLines`).

Whether it comes to an end depends on the threshold. Lines leave nothing
above the level of debugging (`debug_le_of_mem_notes`), so at a lower
threshold the log does not grow while it is read, and the run ends
(`ownLines_of_quiet`). At a higher one a line that is linked leaves a record
that quotes it, which may be linked again.

Consumed by the law about the setting of the log level
(`Proofs/Command/Logged.lean`).
-/
import ConsoleLinks.Command.Run
import ConsoleLinks.Proofs.Dispatcher.Lines
import ConsoleLinks.Proofs.Dispatcher.Story
import ConsoleLinks.Proofs.Queue

namespace ConsoleLinks

open Customizer (builtIn)

variable {clock : Log.Clock} {threshold : Verbosity}
  {chosen : List (AnchorSettings × Ecosystem)}

theorem Log.kept_append (threshold : Verbosity) (first second : List Log.Record) :
    Log.kept threshold (first ++ second)
      = Log.kept threshold first ++ Log.kept threshold second :=
  List.flatMap_append

namespace Dispatcher

-- ============================================================ what is left

theorem notesOver_append (d : Dispatcher) (front back : List String) :
    d.notesOver (front ++ back)
      = d.notesOver front ++ (d.processLines front).1.notesOver back := by
  induction front generalizing d with
  | nil => rfl
  | cons line front ih =>
      rw [List.cons_append, notesOver, ih, notesOver, List.append_assoc, processLines_cons]

/-- What is told of a line is told in records for debugging or below. -/
theorem debug_le_of_mem_told {customizers : List Customizer} {line : String}
    {last owner : Option Nat} {told : List Log.Record}
    (htold : Told customizers line last owner told) {r : Log.Record} (h : r ∈ told) :
    Verbosity.debug.rank ≤ r.level.rank := by
  have htrace : Verbosity.debug.rank ≤ Verbosity.trace.rank := by decide
  cases htold with
  | became _ _ =>
      have hr := List.mem_singleton.1 h
      subst hr
      exact Nat.le_refl _
  | kept _ =>
      have hr := List.mem_singleton.1 h
      subst hr
      exact htrace
  | idle =>
      have hr := List.mem_singleton.1 h
      subst hr
      exact htrace
  | nothing => cases h

/-- A line leaves nothing that is less detailed than debugging. -/
theorem debug_le_of_mem_notes {d : Dispatcher} (hd : d.customizers = builtIn chosen)
    {line : String} {r : Log.Record} (h : r ∈ d.notes line) :
    Verbosity.debug.rank ≤ r.level.rank := by
  rw [notes_eq] at h
  rcases List.mem_append.1 h with h | h
  · obtain ⟨c, hc, hremarks⟩ := exists_of_mem_asked h
    rw [hd] at hc
    obtain ⟨settings, e, rfl⟩ := Customizer.exists_of_mem_builtIn hc
    rw [(Ecosystem.of_mem_remarks hremarks).1]
    decide
  · obtain ⟨last, hact⟩ := d.exists_ofOwner
    obtain ⟨owner, -, htold⟩ := told_of_said hact line
    exact debug_le_of_mem_told htold h

-- ============================================================ quiet thresholds

/-- At a threshold below nothing is kept of a line. -/
theorem kept_notes_eq_nil {d : Dispatcher} (hd : d.customizers = builtIn chosen)
    (hquiet : threshold.rank < Verbosity.debug.rank) (line : String) :
    Log.kept threshold (d.notes line) = [] := by
  refine List.flatMap_eq_nil_iff.2 fun r hr => ?_
  have hdisabled : Log.isEnabled threshold r.level = false :=
    decide_eq_false (Nat.not_le.2 (Nat.lt_of_lt_of_le hquiet (debug_le_of_mem_notes hd hr)))
  unfold Log.write
  rw [hdisabled]
  rfl

/-- Nor of lines in a row. -/
theorem kept_notesOver_eq_nil {d : Dispatcher} (hd : d.customizers = builtIn chosen)
    (hquiet : threshold.rank < Verbosity.debug.rank) (lines : List String) :
    Log.kept threshold (d.notesOver lines) = [] := by
  induction lines generalizing d with
  | nil => rfl
  | cons line rest ih =>
      rw [notesOver, Log.kept_append, kept_notes_eq_nil hd hquiet,
        ih ((customizers_processLine d line).trans hd), List.append_nil]

end Dispatcher

namespace Command

variable {c : Config}

-- ======================================================= the log as it stands

/-- What a run leaves before it reads, and then what the lines leave. -/
theorem records_eq (c : Config) (lines : List String) :
    records c lines = records c [] ++ c.dispatcher.notesOver lines := by
  unfold records
  rw [Dispatcher.notesOver, List.append_nil]

theorem kept_records (threshold : Verbosity) (c : Config) (lines : List String) :
    Log.kept threshold (records c lines)
      = Log.kept threshold (records c [])
        ++ Log.kept threshold (c.dispatcher.notesOver lines) := by
  rw [records_eq, Log.kept_append]

/-- A line that is read next adds to the log what the dispatcher notes of
it. -/
theorem kept_records_append (threshold : Verbosity) (c : Config) (lines : List String)
    (line : String) :
    Log.kept threshold (records c (lines ++ [line]))
      = Log.kept threshold (records c lines)
        ++ Log.kept threshold ((c.dispatcher.processLines lines).1.notes line) := by
  rw [kept_records, kept_records threshold c lines, Dispatcher.notesOver_append,
    Log.kept_append, List.append_assoc, Dispatcher.notesOver, Dispatcher.notesOver,
    List.append_nil]

/-- A reader of the log that is where the lines it has read have brought it. -/
structure Abreast (threshold : Verbosity) (c : Config) (r : LogReader) : Prop where
  dispatcher_eq : r.dispatcher = (c.dispatcher.processLines r.lines).1
  written_eq : r.written = (Log.kept threshold (records c r.lines)).length + 1

/-- What it leaves of a line comes behind what it has left. -/
theorem Abreast.kept_records {r : LogReader} (h : Abreast threshold c r) (line : String) :
    Log.kept threshold (records c (r.lines ++ [line]))
      = Log.kept threshold (records c r.lines)
        ++ Log.kept threshold (r.dispatcher.notes line) := by
  rw [kept_records_append, h.dispatcher_eq]

theorem Abreast.processLines {r : LogReader} (h : Abreast threshold c r) (line : String) :
    c.dispatcher.processLines (r.lines ++ [line])
      = ((r.dispatcher.processLine line).1,
          (c.dispatcher.processLines r.lines).2 ++ [(r.dispatcher.processLine line).2]) := by
  rw [Dispatcher.processLines_append, ← h.dispatcher_eq]
  rfl

theorem Abreast.step {r : LogReader} (h : Abreast threshold c r) (clock : Log.Clock)
    (line : String) : Abreast threshold c (r.step clock threshold line).1 where
  dispatcher_eq := (congrArg Prod.fst (h.processLines line)).symm
  written_eq := by
    show r.written + _ = (Log.kept threshold (records c (r.lines ++ [line]))).length + 1
    rw [h.kept_records, List.length_append, h.written_eq]
    omega

/-- A reader of the log, and the lines that it has still to read: with those
it has read they are the log. -/
structure Behind (clock : Log.Clock) (threshold : Verbosity) (c : Config)
    (r : LogReader) (ahead : List String) : Prop extends Abreast threshold c r where
  lines_append : r.lines ++ ahead
    = Log.fileLines clock threshold (Log.kept threshold (records c r.lines))

/-- At the start nothing has been read. -/
theorem behind_start :
    Behind clock threshold c
      ⟨c.dispatcher, (Log.kept threshold (records c [])).length + 1, []⟩
      (Log.fileLines clock threshold (Log.kept threshold (records c []))) where
  dispatcher_eq := rfl
  written_eq := rfl
  lines_append := rfl

/-- A line moves from those ahead to those that have been read, and what it
leaves in the log comes to stand at the end. -/
theorem Behind.step {r : LogReader} {line : String} {ahead : List String}
    (h : Behind clock threshold c r (line :: ahead)) :
    Behind clock threshold c (r.step clock threshold line).1
      (ahead ++ (r.step clock threshold line).2) where
  toAbreast := h.toAbreast.step clock line
  lines_append := by
    show (r.lines ++ [line]) ++ (ahead ++ _)
      = Log.fileLines clock threshold (Log.kept threshold (records c (r.lines ++ [line])))
    rw [h.toAbreast.kept_records, Log.fileLines_append, ← h.lines_append, ← h.written_eq]
    simp only [List.append_assoc, List.cons_append, List.nil_append]
    rfl

/-- A run that comes to the end of its log has read all of it. -/
theorem ownLines_eq_fileLines {lines : List String}
    (h : ownLines clock threshold c = some lines) :
    lines = Log.fileLines clock threshold (Log.kept threshold (records c lines)) := by
  obtain ⟨last, hlast, hlines⟩ := Option.map_eq_some_iff.1 h
  have hend := Queue.drain_invariant (I := Behind clock threshold c)
    (fun r line ahead hr => hr.step) behind_start hlast
  have hall := hend.lines_append
  rw [List.append_nil, hlines] at hall
  exact hall

-- ==================================================== the end of the reading

/-- The customizers of a configuration are those of the ecosystems. -/
theorem customizers_eq_builtIn (c : Config) :
    c.dispatcher.customizers = builtIn (c.registered.map (c.anchor, ·)) := by
  unfold builtIn
  rw [List.map_map]
  rfl

/-- Below the level of debugging a run comes to the end of its log, which is
what it was when the reading began. -/
theorem ownLines_of_quiet (clock : Log.Clock) (c : Config)
    (hquiet : threshold.rank < Verbosity.debug.rank) :
    ownLines clock threshold c
      = some (Log.fileLines clock threshold (Log.kept threshold (records c []))) := by
  have hstill : ∀ (r : LogReader) line,
      r.dispatcher.customizers = builtIn (c.registered.map (c.anchor, ·)) →
        (r.step clock threshold line).1.dispatcher.customizers
            = builtIn (c.registered.map (c.anchor, ·))
          ∧ (r.step clock threshold line).2 = [] := by
    intro r line hr
    refine ⟨(Dispatcher.customizers_processLine r.dispatcher line).trans hr, ?_⟩
    show Log.recordLines clock r.written (Log.kept threshold (r.dispatcher.notes line)) = []
    rw [Dispatcher.kept_notes_eq_nil hr hquiet]
    rfl
  have hends : ∃ lines, ownLines clock threshold c = some lines :=
    ⟨_, congrArg (Option.map LogReader.lines)
      (Queue.drain_of_still hstill (customizers_eq_builtIn c) _)⟩
  -- the lines are the whole log, to which they have added nothing
  obtain ⟨lines, hlines⟩ := hends
  have hall := ownLines_eq_fileLines hlines
  rw [kept_records, Dispatcher.kept_notesOver_eq_nil (customizers_eq_builtIn c) hquiet,
    List.append_nil] at hall
  rw [hlines, hall]

end Command

end ConsoleLinks
