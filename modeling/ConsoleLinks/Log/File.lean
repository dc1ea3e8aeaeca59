/-
The log as a file: where it is, what becomes of other paths while it is
there, and the lines it holds, with the times they were written at.
-/
import ConsoleLinks.Files.Fault
import ConsoleLinks.Files.Path
import ConsoleLinks.Log.Record
import ConsoleLinks.Text.Bytes

namespace ConsoleLinks.Log

-- =============================================================== paths

/-- The names that lead from the root directory to the file that holds the
log of the last run that had one. -/
def fileNames : List String := ["tmp", "tracelink_debug.log"]

/-- The path of that file. -/
def filePath : String := "/" ++ String.intercalate "/" fileNames

/-- Where a path leads while the log is there. -/
inductive Route where
  /-- Away from the log: where it led before. -/
  | apart
  /-- To the log. -/
  | log
  /-- Nowhere: whatever it led to before, it now meets this fault. -/
  | refused (fault : FileFault)
deriving DecidableEq, Repr

namespace Route

/-- Follows names from a place on the way to the log, given the names that
led there, the last one first, and those that lead on to the log. The log
is no directory, so nothing leads on from it. -/
def follow (behind ahead : List String) : List String → Route
  | [] => if ahead.isEmpty then .log else .apart
  | name :: rest =>
    match ahead with
    | [] => .refused .notDirectory
    | next :: ahead =>
      if name = "" || name = "." then follow behind (next :: ahead) rest
      else if name = ".." then
        match behind with
        | [] => follow [] (next :: ahead) rest
        | last :: behind => follow behind (last :: next :: ahead) rest
      else if name = next then follow (next :: behind) ahead rest
      else .apart

/-- Where a path leads, as far as its text tells: the directories on the way
to the log are taken to be there, and all others to be apart from it. -/
def ofPath (path : String) : Route :=
  if path.toList.contains '\x00' || Path.longestPath < Text.byteLength path.toList then .apart
  else if Text.startsWith ['/'] path.toList then follow [] fileNames (Path.names path)
  else .apart

end Route

-- =============================================================== lines

/-- The times at which things are written, the first one first; `none` where
times are left out. -/
abbrev Clock := Nat → Option String

/-- The lines that open a log file. -/
def sessionHeader (time : Option String) (threshold : Verbosity) : List String :=
  let rule := String.ofList (List.replicate 80 '=')
  let started := match time with
    | some t => " " ++ t
    | none => ""
  ["", rule,
   "tracelink debug session started at" ++ started ++ " (level=" ++ threshold.title ++ ")",
   rule]

/-- The lines a record takes behind its time. -/
def Record.linesAt (time : Option String) (r : Record) : List String :=
  let stamp := match time with
    | some t => "[" ++ t ++ "] "
    | none => ""
  (Text.pieces '\n' (stamp ++ r.text).toList).map String.ofList

/-- The lines of records that are written when `count` things have been. -/
def recordLines (clock : Clock) (count : Nat) : List Record → List String
  | [] => []
  | r :: rest => r.linesAt (clock count) ++ recordLines clock (count + 1) rest

/-- The lines of a log file: those that open it, and its records. -/
def fileLines (clock : Clock) (threshold : Verbosity) (records : List Record) :
    List String :=
  sessionHeader (clock 0) threshold ++ recordLines clock 1 records

/-- What is written later stands behind what was written before. -/
theorem recordLines_append (clock : Clock) (count : Nat) (first second : List Record) :
    recordLines clock count (first ++ second)
      = recordLines clock count first
        ++ recordLines clock (count + first.length) second := by
  induction first generalizing count with
  | nil => rfl
  | cons r rest ih =>
      rw [List.cons_append, recordLines, recordLines, ih, List.append_assoc,
        List.length_cons, Nat.add_assoc, Nat.add_comm 1]

theorem fileLines_append (clock : Clock) (threshold : Verbosity) (first second : List Record) :
    fileLines clock threshold (first ++ second)
      = fileLines clock threshold first ++ recordLines clock (first.length + 1) second := by
  unfold fileLines
  rw [recordLines_append, List.append_assoc, Nat.add_comm 1]

end ConsoleLinks.Log
