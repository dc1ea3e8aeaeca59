/-
Lines of a .NET exception trace (headers, frames with a source file, end
markers) and diagnostics of the C# compiler.

A frame shows its place at the end, ` in FILE:line N`, a diagnostic shows
it at the front, `FILE(LINE,COLUMN): error CODE: ...`. File names may hold
blanks, parentheses and even the marks themselves, so the grammar says
which mark counts: in a frame the first closing parenthesis that is
followed by ` in ` and the last `:line `, in a diagnostic the first
location that a code follows.
-/
import ConsoleLinks.Line.Basic
import ConsoleLinks.Text.Scan
import ConsoleLinks.Text.Blank
import ConsoleLinks.Text.Word
import ConsoleLinks.Text.Decimal

namespace ConsoleLinks.CSharp

open Text

/-- Whether a text goes beyond one line. -/
def breaksLine (text : List Char) : Bool := text.contains '\n'

-- ================================================ headers and markers

/-- A letter or `_`: what a name begins with. -/
def opensName (c : Char) : Bool := c.isAlpha || c = '_'

/-- A word character, or the backtick before a count of type parameters:
what a name goes on with. -/
def continuesName (c : Char) : Bool := isWord c || c = '\x60'

/-- The name of a namespace or a type. -/
def isName : List Char → Bool := isNameOf opensName continuesName

/-- At least `count` names joined by dots, and after them nothing or a
colon and a message on the same line. -/
def isThrown (count : Nat) (text : List Char) : Bool :=
  let names := pieces '.' (text.takeWhile (· ≠ ':'))
  decide (count ≤ names.length) && names.all isName
    && !breaksLine (text.dropWhile (· ≠ ':'))

/-- The first line of a trace of an exception that nobody caught. -/
def isHeader (line : List Char) : Bool :=
  match afterWord? "Unhandled Exception: ".toList line with
  | some thrown => isThrown 1 thrown
  | none =>
    match afterWord? "Unhandled exception. ".toList line with
    | some thrown => isThrown 1 thrown
    | none => false

/-- The line that introduces an inner exception. -/
def isInnerHeader (line : List Char) : Bool :=
  match afterWord? "---> ".toList (dropBlanks line) with
  | some thrown => isThrown 2 thrown
  | none => false

/-- The phrases of the lines that close a part of a trace. -/
def endMarkers : List (List Char) :=
  ["--- End of inner exception stack trace ---".toList,
   "--- End of stack trace from previous location ---".toList,
   ("--- End of stack trace from previous location ".toList
     ++ "where exception was thrown ---".toList)]

/-- A line that closes a part of a trace. -/
def isEndMarker (line : List Char) : Bool := endMarkers.contains (trim line)

-- ============================================================= frames

/-- The parts of a frame. -/
structure Frame where
  /-- All before the file. -/
  opening : List Char
  file : List Char
  number : List Char
  /-- White space after the number. -/
  closing : List Char
deriving DecidableEq

/-- The line the parts stand for. -/
def Frame.text (f : Frame) : List Char :=
  f.opening ++ f.file ++ ":line ".toList ++ f.number ++ f.closing

/-- Splits off ` in ` from a text that goes on with a file: the link in
front of it, then the file. -/
def afterIn? (text : List Char) : Option (List Char × List Char) :=
  let before := text.takeWhile isBlank
  match afterWord? "in".toList (text.dropWhile isBlank) with
  | none => none
  | some rest =>
    let behind := rest.takeWhile isBlank
    let file := rest.dropWhile isBlank
    if before.isEmpty || behind.isEmpty || file.isEmpty || breaksLine file then none
    else some (before ++ "in".toList ++ behind, file)

/-- Looks for the first closing parenthesis that ` in ` and a file
follow, without leaving the line it starts on. The characters passed are
kept in reverse. -/
def findFile (passed : List Char) : List Char → Option (List Char × List Char)
  | [] => none
  | c :: rest =>
    if c = ')' then
      match afterIn? rest with
      | some (link, file) => some ((c :: passed).reverse ++ link, file)
      | none => findFile (c :: passed) rest
    else if c = '\n' then none
    else findFile (c :: passed) rest

/-- Cuts the end of a frame off: what precedes the last `:line `, the
number, the white space behind it. -/
def cutNumber? (text : List Char) : Option (List Char × List Char × List Char) :=
  let closing := (text.reverse.takeWhile isBlank).reverse
  let rest := text.reverse.dropWhile isBlank
  let number := (rest.takeWhile isDigit).reverse
  if number.isEmpty then none
  else
    match beforeWord? ":line ".toList (rest.dropWhile isDigit).reverse with
    | none => none
    | some body => some (body, number, closing)

/-- Takes a line apart that has the shape of a frame with a source
file. -/
def Frame.ofLine? (line : List Char) : Option Frame :=
  let indent := line.takeWhile isBlank
  match afterWord? "at".toList (line.dropWhile isBlank) with
  | none => none
  | some rest =>
    let gap := rest.takeWhile isBlank
    if gap.isEmpty then none
    else
      match cutNumber? (rest.dropWhile isBlank) with
      | none | some ([], _, _) => none
      | some (c :: body, number, closing) =>
        match findFile [c] body with
        | none => none
        | some (call, file) =>
          some ⟨indent ++ "at".toList ++ gap ++ call, file, number, closing⟩

-- ======================================================== diagnostics

/-- The parts of a diagnostic. -/
structure Diagnostic where
  indent : List Char
  file : List Char
  lineNumber : List Char
  columnNumber : List Char
  /-- The end of the range, with its two commas, where one is given. -/
  range : List Char
  project : Option (List Char)
deriving DecidableEq

/-- The parentheses after the file name. -/
def Diagnostic.place (d : Diagnostic) : List Char :=
  ['('] ++ d.lineNumber ++ [','] ++ d.columnNumber ++ d.range ++ [')']

/-- A run of digits and what follows it. -/
def number? (text : List Char) : Option (List Char × List Char) :=
  if (text.takeWhile isDigit).isEmpty then none
  else some (text.takeWhile isDigit, text.dropWhile isDigit)

/-- Two runs of digits joined by a comma, and what follows them. -/
def numberPair? (text : List Char) : Option (List Char × List Char × List Char) :=
  match number? text with
  | some (first, ',' :: rest) =>
    match number? rest with
    | some (second, behind) => some (first, second, behind)
    | none => none
  | _ => none

/-- What an opening parenthesis before a location leaves: line and
column, the rest of the range, and what follows the closing
parenthesis. -/
def place? (text : List Char) :
    Option (List Char × List Char × List Char × List Char) :=
  match numberPair? text with
  | some (line, column, ')' :: behind) => some (line, column, [], behind)
  | some (line, column, ',' :: rest) =>
    match numberPair? rest with
    | some (endLine, endColumn, ')' :: behind) =>
      some (line, column, [','] ++ endLine ++ [','] ++ endColumn, behind)
    | _ => none
  | _ => none

/-- What follows the second colon of `: error CODE:` or
`: warning CODE:`. -/
def afterCode? (text : List Char) : Option (List Char) :=
  match dropBlanks text with
  | ':' :: rest =>
    let kind := dropBlanks rest
    if (rest.takeWhile isBlank).isEmpty then none
    else
      match (afterWord? "error".toList kind <|> afterWord? "warning".toList kind) with
      | none => none
      | some rest =>
        let code := dropBlanks rest
        let serial := code.dropWhile Char.isAlpha
        if (rest.takeWhile isBlank).isEmpty || (code.takeWhile Char.isAlpha).isEmpty
            || (serial.takeWhile isDigit).isEmpty then none
        else
          match dropBlanks (serial.dropWhile isDigit) with
          | ':' :: message => some message
          | _ => none
  | _ => none

/-- The project in brackets at the end of a message, with the text in
front of the white space that sets it off. -/
def projectAtEnd? (message : List Char) : Option (List Char × List Char) :=
  match message.reverse.dropWhile isBlank with
  | ']' :: rest =>
    let name := rest.takeWhile (fun c => c ≠ '[' && c ≠ ']')
    match rest.dropWhile (fun c => c ≠ '[' && c ≠ ']') with
    | '[' :: blank :: before =>
      if isBlank blank && !name.isEmpty then some (before.reverse, name.reverse)
      else none
    | _ => none
  | _ => none

/-- Reads the message of a diagnostic, all of it on one line up to the
project or the trailing white space: the project, if one is named. -/
def project? (message : List Char) : Option (Option (List Char)) :=
  match projectAtEnd? message with
  | some (before, name) => if breaksLine before then none else some (some name)
  | none => if breaksLine (dropBlanksEnd message) then none else some none

/-- Looks for the first location that a code and a message follow,
without leaving the line it starts on. The characters of the file name
are kept in reverse. -/
def findPlace (indent file : List Char) : List Char → Option Diagnostic
  | [] => none
  | c :: rest =>
    let here? : Option Diagnostic :=
      if c = '(' then
        match place? rest with
        | some (line, column, range, behind) =>
          match afterCode? behind with
          | some message =>
            (project? message).map fun project =>
              ⟨indent, file.reverse, line, column, range, project⟩
          | none => none
        | none => none
      else none
    match here? with
    | some d => some d
    | none => if c = '\n' then none else findPlace indent (c :: file) rest

/-- Takes a line apart that has the shape of a diagnostic. -/
def Diagnostic.ofLine? (line : List Char) : Option Diagnostic :=
  match line.dropWhile isBlank with
  | [] => none
  | c :: rest => findPlace (line.takeWhile isBlank) [c] rest

-- =========================================================== verdicts

/-- The location that a frame shows. -/
def Frame.location (f : Frame) (n : UInt32) : SourceLocation where
  filePath := String.ofList f.file
  line := n
  column := none
  projectFile := none
  symbol := none
  span := .after f.opening (f.file ++ ":line ".toList ++ f.number)

/-- The location that a diagnostic shows. -/
def Diagnostic.location (d : Diagnostic) (n column : UInt32) : SourceLocation where
  filePath := String.ofList d.file
  line := n
  column := some column
  projectFile := d.project.map String.ofList
  symbol := none
  span := .after d.indent (d.file ++ d.place)

/-- What the grammar makes of a line. -/
def verdict (line : List Char) : Verdict :=
  match Frame.ofLine? line with
  | some f =>
    match position? f.number with
    | some n => .recognized (.stackFrame (f.location n))
    | none => .unusable ".NET frame with unusable capture"
  | none =>
    match Diagnostic.ofLine? line with
    | some d =>
      match position? d.lineNumber, position? d.columnNumber with
      | some n, some column =>
        .recognized (.compilerDiagnostic (d.location n column))
      | _, _ => .unusable "diagnostic with unusable capture"
    | none =>
      if isHeader line || isInnerHeader line then .recognized .traceHeader
      else if isEndMarker line then .recognized .continuation
      else .unrelated

end ConsoleLinks.CSharp
