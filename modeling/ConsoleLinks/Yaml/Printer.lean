/-
Writing YAML: trees of lists and mappings in block style, with each text
in the plainest style that brings it back. A text of several lines is
written literally, one that could be taken for something else between
single quotes, and one with characters that would not survive as
themselves between double quotes.
-/
import ConsoleLinks.Yaml.Character
import ConsoleLinks.Yaml.Resolution
import ConsoleLinks.Yaml.Token

namespace ConsoleLinks.Yaml

/-- What can be written. -/
inductive Tree where
  | text (s : String)
  | bool (b : Bool)
  | list (items : List Tree)
  /-- The keys are words that need no quotes. -/
  | mapping (entries : List (String × Tree))
deriving Inhabited, Repr

namespace Printer

open Text

-- ============================================================== styles

/-- Whether a character is written as itself wherever that is
possible. -/
def isPrintable (c : Char) : Bool :=
  let n := c.toNat
  n = 0xa || (0x20 ≤ n && n ≤ 0x7e) || (0xa0 ≤ n && n ≤ 0xd7ff)
    || (0xe000 ≤ n && n ≤ 0xfffd && n ≠ 0xfeff) || 0x10000 ≤ n

/-- The characters that a plain text cannot begin with. -/
def isIndicator (c : Char) : Bool := "#,[]\x7b\x7d&*!|>'\"%@\x60".toList.contains c

/-- Whether a line that begins with a text could be taken for the mark of
a document's end. -/
def beginsWithMark (text : List Char) : Bool :=
  startsWith "---".toList text || startsWith "...".toList text

/-- Whether a colon or a comment inside a text would be taken for
structure; `afterGap` says that a gap comes before it. -/
def hasStructure (afterGap : Bool) : List Char → Bool
  | [] => false
  | c :: rest =>
    (c = ':' && atGap rest) || (c = '#' && afterGap)
      || hasStructure (atGap [c]) rest

/-- Whether the beginning of a text would be taken for structure. -/
def beginsStructure (text : List Char) : Bool :=
  match text with
  | [] => false
  | c :: rest => isIndicator c || ((c = '-' || c = '?' || c = ':') && atGap rest)

/-- Whether one of the pairs of neighbours in a text satisfies a
relation. -/
def hasPair (r : Char → Char → Bool) (text : List Char) : Bool :=
  (text.zip (text.drop 1)).any fun (a, b) => r a b

/-- Whether a text has a space in front of a line break, which no style
but one would keep. -/
def hasSpaceBeforeBreak (text : List Char) : Bool :=
  hasPair (fun a b => a = ' ' && isBreak b) text

/-- Whether a text has a space behind a line break. -/
def hasSpaceAfterBreak (text : List Char) : Bool :=
  hasPair (fun a b => isBreak a && b = ' ') text

/-- Whether only a text between double quotes brings this one back. -/
def needsEscapes (text : List Char) : Bool :=
  !text.all isPrintable || hasSpaceBeforeBreak text

/-- Whether a text comes back from between single quotes. -/
def fitsSingle (text : List Char) : Bool :=
  !needsEscapes text && !hasSpaceAfterBreak text

/-- Whether a text comes back as a literal block. -/
def fitsLiteral (text : List Char) : Bool :=
  !needsEscapes text && text.getLast? ≠ some ' '

/-- Whether a text comes back without quotes. -/
def fitsPlain (text : List Char) : Bool :=
  !needsEscapes text && !text.any isBreak && text.head? ≠ some ' '
    && text.getLast? ≠ some ' ' && !beginsWithMark text && !beginsStructure text
    && !hasStructure true text

/-- The style that a text is written in. -/
def styleOf (s : String) : ScalarStyle :=
  let text := s.toList
  if text.contains '\n' then if fitsLiteral text then .literal else .doubleQuoted
  else if fitsPlain text && !Resolution.isAmbiguous s then .plain
  else if fitsSingle text then .singleQuoted
  else .doubleQuoted

-- ============================================================= scalars

def spaces (n : Nat) : List Char := List.replicate n ' '

/-- Text between single quotes. Lines behind a break are indented. -/
def single (indent : Nat) (afterBreak : Bool) : List Char → List Char
  | [] => if afterBreak then spaces indent else []
  | c :: rest =>
    if isBreak c then c :: single indent true rest
    else
      (if afterBreak then spaces indent else [])
        ++ (if c = '\'' then ['\'', '\''] else [c]) ++ single indent false rest

/-- The letter that stands for a character behind a backslash. -/
def shortEscape? (c : Char) : Option Char :=
  match c with
  | '\x00' => some '0'
  | '\x07' => some 'a'
  | '\x08' => some 'b'
  | '\t' => some 't'
  | '\n' => some 'n'
  | '\x0b' => some 'v'
  | '\x0c' => some 'f'
  | '\r' => some 'r'
  | '\x1b' => some 'e'
  | '"' => some '"'
  | '\\' => some '\\'
  | '\u0085' => some 'N'
  | '\u2028' => some 'L'
  | '\u2029' => some 'P'
  | _ => none

/-- How one character stands between double quotes. -/
def escapeChar (c : Char) : List Char :=
  match shortEscape? c with
  | some letter => ['\\', letter]
  | none =>
    if isPrintable c then [c]
    else
      let n := c.toNat
      if n ≤ 0xff then ['\\', 'x'] ++ Hex.fixed Hex.upper 2 n
      else if n ≤ 0xffff then ['\\', 'u'] ++ Hex.fixed Hex.upper 4 n
      else ['\\', 'U'] ++ Hex.fixed Hex.upper 8 n

/-- What the header of a literal block says about the text: how far it is
indented, where that does not show, and what becomes of the breaks at its
end. -/
def literalHints (text : List Char) : List Char :=
  (match text with
    | c :: _ => if c = ' ' || isBreak c then ['2'] else []
    | [] => []) ++
  (match text.reverse with
    | [] => ['-']
    | [c] => if isBreak c then ['+'] else ['-']
    | c :: d :: _ => if isBreak c then if isBreak d then ['+'] else [] else ['-'])

/-- The lines of a literal block. -/
def literalLines (indent : Nat) (afterBreak : Bool) : List Char → List Char
  | [] => []
  | c :: rest =>
    if isBreak c then c :: literalLines indent true rest
    else
      (if afterBreak then spaces indent else []) ++ c :: literalLines indent false rest

/-- A text to the end of its last line, in the style it is written in.
Further lines are indented. -/
def scalar (indent : Nat) (s : String) : List Char :=
  let text := s.toList
  match styleOf s with
  | .literal =>
    ['|'] ++ literalHints text ++ ['\n'] ++ literalLines indent true text
      ++ (if (text.getLast?.map isBreak).getD false then [] else ['\n'])
  | .singleQuoted => ['\''] ++ single indent false text ++ ['\'', '\n']
  | .doubleQuoted => ['"'] ++ text.flatMap escapeChar ++ ['"', '\n']
  | .plain | .folded => text ++ ['\n']

-- =============================================================== trees

/-- A truth value to the end of its line. -/
def truth (b : Bool) : List Char := (if b then "true" else "false").toList ++ ['\n']

mutual

/-- What stands behind a key whose mapping begins in a column. The items
of a list stand in that column, the entries of a mapping two columns
further. -/
def behindKey (column : Nat) : Tree → List Char
  | .text s => ' ' :: scalar (column + 2) s
  | .bool b => ' ' :: truth b
  | .list [] => " []\n".toList
  | .list (item :: rest) => '\n' :: spaces column ++ items column (item :: rest)
  | .mapping [] => " \x7b\x7d\n".toList
  | .mapping (entry :: rest) =>
    '\n' :: spaces (column + 2) ++ entries (column + 2) (entry :: rest)

/-- What stands behind the sign of an item in a column. -/
def behindDash (column : Nat) : Tree → List Char
  | .text s => ' ' :: scalar (column + 2) s
  | .bool b => ' ' :: truth b
  | .list [] => " []\n".toList
  | .list (item :: rest) => ' ' :: items (column + 2) (item :: rest)
  | .mapping [] => " \x7b\x7d\n".toList
  | .mapping (entry :: rest) => ' ' :: entries (column + 2) (entry :: rest)

/-- Items in a column, from the first one's sign on. -/
def items (column : Nat) : List Tree → List Char
  | [] => []
  | [item] => '-' :: behindDash column item
  | item :: next :: rest =>
    '-' :: behindDash column item ++ spaces column ++ items column (next :: rest)

/-- Entries in a column, from the first one's key on. -/
def entries (column : Nat) : List (String × Tree) → List Char
  | [] => []
  | [(key, value)] => key.toList ++ ':' :: behindKey column value
  | (key, value) :: next :: rest =>
    key.toList ++ ':' :: behindKey column value ++ spaces column
      ++ entries column (next :: rest)

end

end Printer

/-- A tree as a document. -/
def Tree.render : Tree → List Char
  | .text s => Printer.scalar 2 s
  | .bool b => Printer.truth b
  | .list [] => "[]\n".toList
  | .list (item :: rest) => Printer.items 0 (item :: rest)
  | .mapping [] => "\x7b\x7d\n".toList
  | .mapping (entry :: rest) => Printer.entries 0 (entry :: rest)

end ConsoleLinks.Yaml
