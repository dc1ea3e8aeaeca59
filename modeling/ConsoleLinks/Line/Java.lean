/-
Lines of a stack trace of the Java virtual machine: headers
(`pkg.SomeException: message`, `Caused by: ...`), `at` lines with or
without a source position, and the line that counts frames left out.

An `at` line is taken apart once (`AtLine.ofLine?`), into the text
before the symbol, the symbol, what stands between the parentheses and
what follows them. No character that may stand in one part may open the
next, so the parts of a line are its only ones.
-/
import ConsoleLinks.Line.Basic
import ConsoleLinks.Text.Scan
import ConsoleLinks.Text.Blank
import ConsoleLinks.Text.Word
import ConsoleLinks.Text.Decimal

namespace ConsoleLinks.Java

open Text

-- ============================================================== names

/-- A letter, `_` or `$`: what a name begins with. -/
def opensName (c : Char) : Bool := c.isAlpha || c = '_' || c = '$'

/-- A word character or `$`: what a name goes on with. -/
def continuesName (c : Char) : Bool := isWord c || c = '$'

/-- The name of a package, a class or a plain method. -/
def isName : List Char → Bool := isNameOf opensName continuesName

/-- The last part of a symbol: a method name, which may begin with a
digit, or the marker of a constructor or a class initializer. -/
def isMethod (text : List Char) : Bool :=
  (!text.isEmpty && text.all continuesName)
    || text = "<init>".toList || text = "<clinit>".toList

/-- Names joined by dots, with a method at the end of them. -/
def isSymbol (text : List Char) : Bool :=
  match (pieces '.' text).reverse with
  | method :: first :: others => isMethod method && (first :: others).all isName
  | _ => false

-- =========================================================== at lines

/-- The characters of the module or class-loader part of an `at` line:
`java.base/`, `app//`. -/
def inModule (c : Char) : Bool :=
  isWord c || c = '$' || c = '.' || c = '@' || c = '-' || c = '/'

/-- The module part in front of a symbol: up to the last slash of the
run that may hold one. -/
def modulePart (text : List Char) : List Char :=
  ((text.takeWhile inModule).reverse.dropWhile (· ≠ '/')).reverse

/-- What may follow the closing parenthesis: white space, and in front of
it the name of the archive in brackets. -/
def isPackaging (text : List Char) : Bool :=
  let rest := dropBlanks text
  rest.isEmpty ||
    ((text.head?.map isBlank).getD false &&
      match rest with
      | '~' :: '[' :: inside | '[' :: inside =>
        match inside.dropWhile (· ≠ ']') with
        | _ :: behind => (dropBlanks behind).isEmpty
        | [] => false
      | _ => false)

/-- The parts of an `at` line. -/
structure AtLine where
  /-- All before the symbol: indentation, `at`, module. -/
  opening : List Char
  symbol : List Char
  /-- What stands between the parentheses. -/
  source : List Char
  /-- What follows the closing parenthesis. -/
  packaging : List Char
deriving DecidableEq

/-- The line the parts stand for. -/
def AtLine.text (l : AtLine) : List Char :=
  l.opening ++ l.symbol ++ ['('] ++ l.source ++ [')'] ++ l.packaging

/-- Takes a line apart that has the shape of an `at` line. -/
def AtLine.ofLine? (line : List Char) : Option AtLine :=
  let indent := line.takeWhile isBlank
  match afterWord? "at".toList (line.dropWhile isBlank) with
  | none => none
  | some rest =>
    let gap := rest.takeWhile isBlank
    let path := rest.dropWhile isBlank
    let owner := modulePart path
    let call := path.drop owner.length
    let symbol := call.takeWhile (· ≠ '(')
    match call.dropWhile (· ≠ '(') with
    | [] => none
    | _ :: inside =>
      let source := inside.takeWhile (· ≠ ')')
      match inside.dropWhile (· ≠ ')') with
      | [] => none
      | _ :: packaging =>
        if !gap.isEmpty && isSymbol symbol && isPackaging packaging then
          some ⟨indent ++ "at".toList ++ gap ++ owner, symbol, source, packaging⟩
        else none

-- ========================================================= the source

/-- What an `at` line says about the source. -/
inductive Source where
  /-- `Native Method`, `Unknown Source`, or a file without a line. -/
  | noPosition
  | position (file number : List Char)
deriving DecidableEq

/-- The name of a source file, as printed between the parentheses. -/
def isFile (text : List Char) : Bool :=
  text.all (fun c => c ≠ '(' && c ≠ ')' && c ≠ '/' && c ≠ '\\' && c ≠ ':')
    && match beforeWord? ".java".toList text with
      | some stem => !stem.isEmpty
      | none => false

/-- Reads what stands between the parentheses. -/
def Source.ofText? (text : List Char) : Option Source :=
  if text = "Native Method".toList || text = "Unknown Source".toList then
    some .noPosition
  else
    let file := text.takeWhile (· ≠ ':')
    if isFile file then
      match text.dropWhile (· ≠ ':') with
      | [] => some .noPosition
      | _ :: number =>
        if !number.isEmpty && number.all isDigit then some (.position file number)
        else none
    else none

-- ================================================ headers and elisions

/-- The names of throwables end in one of these words, and have at least
one more character in front of it. -/
def throwableEndings : List (List Char) :=
  ["Exception".toList, "Error".toList, "Throwable".toList]

/-- The simple name of a throwable. -/
def isThrowable (text : List Char) : Bool :=
  throwableEndings.any fun ending =>
    match beforeWord? ending text with
    | some stem => isName stem
    | none => false

/-- A throwable's qualified name with at least `packages` names in front
of the simple one, and after it nothing or a colon and a message on the
same line. -/
def isThrown (packages : Nat) (text : List Char) : Bool :=
  match (pieces '.' (text.takeWhile (· ≠ ':'))).reverse with
  | [] => false
  | simple :: names =>
    isThrowable simple && decide (packages ≤ names.length) && names.all isName
      && !(text.dropWhile (· ≠ ':')).contains '\n'

/-- What follows the phrase that introduces a throwable. -/
def afterIntroduction? (text : List Char) : Option (List Char) :=
  match afterWord? "Caused by: ".toList text with
  | some rest => some rest
  | none =>
    match afterWord? "Suppressed: ".toList text with
    | some rest => some rest
    | none =>
      match afterWord? "Exception in thread \"".toList text with
      | none => none
      | some rest => afterWord? "\" ".toList (rest.dropWhile (· ≠ '"'))

/-- The first line of a trace, or of a cause within one. Without an
introduction the name has to have a package. -/
def isHeader (line : List Char) : Bool :=
  let text := dropBlanks line
  match afterIntroduction? text with
  | some thrown => isThrown 0 thrown
  | none => isThrown 1 text

/-- The line that counts frames left out: `... 3 more`. -/
def isElision (line : List Char) : Bool :=
  match afterWord? "... ".toList (dropBlanks line) with
  | none => false
  | some rest =>
    let phrase := dropBlanksEnd (rest.dropWhile isDigit)
    !(rest.takeWhile isDigit).isEmpty &&
      (phrase = " more".toList || phrase = " common frames omitted".toList)

-- =========================================================== verdicts

/-- The location that an `at` line shows, given the file and the line
number between its parentheses. -/
def AtLine.location (l : AtLine) (file number : List Char) (n : UInt32) :
    SourceLocation where
  filePath := String.ofList file
  line := n
  column := none
  projectFile := none
  symbol := some (String.ofList l.symbol)
  span := .after (l.opening ++ l.symbol ++ ['(']) (file ++ [':'] ++ number)

/-- What the grammar makes of a line. -/
def verdict (line : List Char) : Verdict :=
  match AtLine.ofLine? line with
  | some l =>
    match Source.ofText? l.source with
    | some (.position file number) =>
      match position? number with
      | some n => .recognized (.stackFrame (l.location file number n))
      | none => .unusable "java frame with unusable line number"
    | some .noPosition => .recognized .continuation
    | none => .unrelated
  | none =>
    if isElision line then .recognized .continuation
    else if isHeader line then .recognized .traceHeader
    else .unrelated

end ConsoleLinks.Java
