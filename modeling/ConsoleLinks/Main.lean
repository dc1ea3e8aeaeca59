/-
The command line: reads what a run needs, carries the run out
(`Command.run`), and writes what comes of it. Nothing is decided here. A
record in the log file gets no time.
-/
import ConsoleLinks.Command.Run

namespace ConsoleLinks.Program

/-- An error of the operating system, by its words and its number, whose
sign depends on where it was met. -/
def systemFault (details : String) (code : UInt32) : FileFault :=
  let number := code.toInt32.toInt.natAbs
  if number = 2 then .missing
  else if number = 20 then .notDirectory
  else if number = 21 then .directory
  else if number = 36 then .nameTooLong
  else .other (details.capitalize ++ " (os error " ++ toString number ++ ")")

/-- The fault that an error stands for. -/
def faultOf : IO.Error → FileFault
  | .noFileOrDirectory _ code details => systemFault details code
  | .inappropriateType _ code details => systemFault details code
  | .invalidArgument _ code details => systemFault details code
  | .permissionDenied _ code details => systemFault details code
  | e => .other (toString e)

/-- Reads the file at a path. -/
def readFile (path : String) : IO (Except FileFault (List UInt8)) := do
  if path.toList.contains '\x00' then return .error .badName
  match ← (IO.FS.readBinFile path).toBaseIO with
  | .ok bytes => return .ok bytes.toList
  | .error e => return .error (faultOf e)

/-- The home directory, if one is set. -/
def homeDirectory : IO (Option String) := do
  return (← IO.getEnv "HOME").filter (· ≠ "")

/-- Reads the files at some paths; of all others nothing is known. -/
def snapshot (paths : List String) : IO Files := do
  let found ← paths.mapM fun path => return (path, ← readFile path)
  return fun path => (found.lookup path).getD (.error .missing)

/-- Writes the log file anew. A run goes on without a log when there can
be none. -/
def writeLog (lines : List String) : IO Unit := do
  let written := IO.FS.withFile Log.filePath .write fun file => lines.forM file.putStrLn
  let _ ← written.toBaseIO

end ConsoleLinks.Program

open ConsoleLinks in
def main (arguments : List String) : IO UInt32 := do
  let home ← Program.homeDirectory
  let debugLevel ← IO.getEnv "DEBUG_LEVEL"
  let files ← Program.snapshot (Command.paths home arguments)
  let env : Command.Environment :=
    { home := home, debugLevel := debugLevel, files := files, standardInput := [] }
  let standardInput ←
    if Command.readsStandardInput env arguments then
      pure (← (← IO.getStdin).readBinToEnd).toList
    else pure []
  let outcome := Command.run { env with standardInput := standardInput } arguments
  if let some lines := outcome.log then Program.writeLog lines
  (← IO.getStdout).putStr outcome.stdout
  (← IO.getStdout).flush
  (← IO.getStderr).putStr outcome.stderr
  return UInt32.ofNat outcome.exit
