/-
Block scalars: whole lines, indented by the same number of columns. A
literal scalar keeps its line breaks; a folded one turns a single break
between two lines that begin with a word into a space. The header says
what becomes of the breaks at the end.
-/
import ConsoleLinks.Yaml.Place

namespace ConsoleLinks.Yaml.Block

/-- What becomes of the line breaks at the end of a block scalar. -/
inductive Chomping where
  /-- All are dropped. -/
  | strip
  /-- The first is kept. -/
  | clip
  /-- All are kept. -/
  | keep
deriving DecidableEq, Repr

-- ============================================================== header

/-- What the header says: what becomes of the last breaks, and by how
many columns the lines are indented more than the block around them. -/
structure Header where
  chomping : Chomping := .clip
  increment : Option Nat := none
deriving DecidableEq, Repr

/-- The chomping that a sign stands for. -/
def chomping? (c : Char) : Option Chomping :=
  if c = '+' then some .keep else if c = '-' then some .strip else none

/-- The header that the text begins with, each part at most once and in
either order, and the number of its characters; an increment of zero is
not allowed. -/
def header? (text : List Char) : Option (Header × Nat) :=
  let increment (c : Char) : Option Nat :=
    if c.isDigit then some (c.toNat - '0'.toNat) else none
  let found : Header × Nat :=
    match text with
    | a :: b :: _ =>
      match chomping? a, increment a with
      | some s, _ =>
        match increment b with
        | some n => (⟨s, some n⟩, 2)
        | none => (⟨s, none⟩, 1)
      | none, some n =>
        match chomping? b with
        | some s => (⟨s, some n⟩, 2)
        | none => (⟨.clip, some n⟩, 1)
      | none, none => (⟨.clip, none⟩, 0)
    | [a] =>
      match chomping? a, increment a with
      | some s, _ => (⟨s, none⟩, 1)
      | none, some n => (⟨.clip, some n⟩, 1)
      | none, none => (⟨.clip, none⟩, 0)
    | [] => (⟨.clip, none⟩, 0)
  if found.1.increment = some 0 then none else some found

-- =============================================================== lines

/-- What has been read of a block scalar. -/
structure Lines where
  /-- The column that lines start at, once it is known. -/
  indent : Option Nat
  /-- The widest indentation of the empty lines at the front. -/
  widest : Nat := 0
  /-- The break at the end of the last line. -/
  ending : List Char := []
  /-- Whether the last line began with a blank. -/
  beganBlank : Bool := false
  /-- The breaks of the empty lines since, the last one first. -/
  empty : List Char := []
  /-- The characters read, without these breaks, the last one first. -/
  read : List Char := []
deriving DecidableEq, Repr

namespace Lines

/-- Whether a column lies before the one that lines start at, as far as
that is known. -/
def isShallow (l : Lines) (column : Nat) : Bool :=
  match l.indent with
  | none => true
  | some indent => column < indent

/-- The column that lines start at when the first one with a character
starts at `column`. It is at least `margin`, and never the first
column. -/
def indentAt (l : Lines) (margin column : Nat) : Nat :=
  l.indent.getD (max (max l.widest column) (max margin 1))

/-- Puts the breaks between the lines behind the text read so far. A
folded scalar turns them into a space where they are a single line feed
between words, and drops the first where an empty line follows it. -/
def joined (l : Lines) (fold startsBlank : Bool) : List Char :=
  if fold && l.ending = ['\n'] && !l.beganBlank && !startsBlank then
    if l.empty.isEmpty then ' ' :: l.read else l.empty ++ l.read
  else l.empty ++ l.ending ++ l.read

/-- Begins a line with its first character. -/
def begin (l : Lines) (fold : Bool) (indent : Nat) (c : Char) : Lines where
  indent := some indent
  beganBlank := isBlank c
  read := c :: l.joined fold (isBlank c)

/-- The text of the scalar when no further line follows. -/
def finish (l : Lines) (chomping : Chomping) : List Char :=
  match chomping with
  | .strip => l.read.reverse
  | .clip => (l.ending ++ l.read).reverse
  | .keep => (l.empty ++ l.ending ++ l.read).reverse

end Lines

/-- Reads the lines of a block scalar, `inLine` saying whether a line has
been begun. They end at the first one that does not start where it
should. -/
def scan (fold : Bool) (margin : Nat) (l : Lines) (inLine : Bool) (place : Place) :
    List Char → Option (Lines × Cursor)
  | [] => some (l, ⟨place, []⟩)
  | c :: rest =>
    if inLine then
      if isBreak c then scan fold margin { l with ending := [c] } false (place.next c) rest
      else scan fold margin { l with read := c :: l.read } true (place.next c) rest
    else if c = ' ' && l.isShallow place.column then
      scan fold margin l false (place.next c) rest
    else if c = '\t' && l.isShallow place.column then none
    else if isBreak c then
      scan fold margin
        { l with empty := c :: l.empty, widest := max l.widest place.column }
        false (place.next c) rest
    else
      let indent := l.indentAt margin place.column
      if place.column = indent then
        scan fold margin (l.begin fold indent c) true (place.next c) rest
      else some (l, ⟨place, c :: rest⟩)

/-- Reads a block scalar from behind the sign that opens it, inside a
block whose contents start at `margin` or behind it. -/
def read (fold : Bool) (margin : Nat) (c : Cursor) : Option (List Char × Cursor) := do
  let (header, width) ← header? c.rest
  let c ← (c.skipMany width).finishLine?
  let indent := header.increment.map (margin - 1 + ·)
  let (lines, c) ← scan fold margin { indent := indent } false c.place c.rest
  return (lines.finish header.chomping, c)

end ConsoleLinks.Yaml.Block
