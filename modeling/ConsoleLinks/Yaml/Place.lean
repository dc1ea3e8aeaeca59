/-
Places in a document and the cursor that moves over its text. A place is
told by line and column, which is all that the layout of blocks depends
on.
-/
import ConsoleLinks.Yaml.Character

namespace ConsoleLinks.Yaml

/-- A place in a document, counted from zero. -/
structure Place where
  line : Nat
  column : Nat
deriving DecidableEq, Repr

/-- The place behind a character. -/
def Place.next (p : Place) (c : Char) : Place :=
  if isBreak c then ⟨p.line + 1, 0⟩ else ⟨p.line, p.column + 1⟩

/-- A place and the text from there on. -/
structure Cursor where
  place : Place
  rest : List Char
deriving DecidableEq, Repr

namespace Cursor

/-- Moves behind the next character. -/
def skip (c : Cursor) : Cursor :=
  match c.rest with
  | [] => c
  | x :: rest => ⟨c.place.next x, rest⟩

/-- Moves behind the next `n` characters. -/
def skipMany (c : Cursor) (n : Nat) : Cursor :=
  ⟨(c.rest.take n).foldl Place.next c.place, c.rest.drop n⟩

/-- Moves over the characters of a class. -/
def skipWhile (p : Char → Bool) (c : Cursor) : Cursor :=
  ⟨(c.rest.takeWhile p).foldl Place.next c.place, c.rest.dropWhile p⟩

/-- Moves to a rest of the text that is known to lie ahead. -/
def moveTo (c : Cursor) (rest : List Char) : Cursor :=
  c.skipMany (c.rest.length - rest.length)

/-- Moves behind what may follow the last word of a line: blanks, a
comment, and the line break; `none` when something else follows. -/
def finishLine? (c : Cursor) : Option Cursor :=
  let c := c.skipWhile isBlank
  let c := if c.rest.head? = some '#' then c.skipWhile (!isBreak ·) else c
  if atGap c.rest then some c.skip else none

end Cursor

end ConsoleLinks.Yaml
