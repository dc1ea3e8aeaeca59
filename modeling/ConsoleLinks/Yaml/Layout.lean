/-
The layout of a document while its tokens are being read: how far the
blocks around the cursor are indented, and where a key may begin whose
colon is still to come.

A margin is the least column that belongs to the inside of a block, one
more than the column the block starts at; outside of all blocks it is
zero. A key that is no longer than a line shows only at its colon, so a
token that could begin one is remembered, and the key token is put in
front of it when the colon is found.
-/
import ConsoleLinks.Yaml.Place
import ConsoleLinks.Yaml.Token

namespace ConsoleLinks.Yaml

/-- A place where a key may have begun. -/
structure PossibleKey where
  /-- How many tokens stand before it. -/
  number : Nat
  place : Place
  /-- Whether nothing but a key can stand there. -/
  required : Bool
deriving DecidableEq, Repr

/-- The state in which tokens are read. -/
structure Layout where
  cursor : Cursor
  /-- The tokens read, the last one first. -/
  tokens : List Token := []
  /-- The number of these tokens. -/
  count : Nat := 0
  /-- The margin of the innermost block. -/
  margin : Nat := 0
  /-- The margins of the blocks around it, from the inside. -/
  margins : List Nat := []
  /-- The possible key inside the innermost brackets, or outside of
  any. -/
  key : Option PossibleKey := none
  /-- The possible keys outside of these brackets, from the inside: as
  many as there are brackets around the cursor. -/
  outerKeys : List (Option PossibleKey) := []
  /-- Whether a key may begin at the cursor. -/
  keyAllowed : Bool := true
deriving Repr

namespace Layout

/-- Whether there are brackets around the cursor. -/
def inFlow (l : Layout) : Bool := !l.outerKeys.isEmpty

/-- The column of the cursor. -/
def column (l : Layout) : Nat := l.cursor.place.column

/-- Adds a token. -/
def push (l : Layout) (t : Token) : Layout :=
  { l with tokens := t :: l.tokens, count := l.count + 1 }

/-- Puts a token behind the first `number` ones. -/
def insert (l : Layout) (number : Nat) (t : Token) : Layout :=
  let behind := l.count - number
  { l with
    tokens := l.tokens.take behind ++ t :: l.tokens.drop behind
    count := l.count + 1 }

/-- Moves behind the next `n` characters. -/
def skip (l : Layout) (n : Nat) : Layout := { l with cursor := l.cursor.skipMany n }

-- ============================================================== blocks

/-- Begins a block at a column that lies inside the innermost one, its
token standing behind the first `number` ones. Brackets know no
blocks. -/
def indent (l : Layout) (column number : Nat) (t : Token) : Layout :=
  if l.inFlow || column < l.margin then l
  else { l.insert number t with margin := column + 1, margins := l.margin :: l.margins }

/-- Ends the blocks, from the inside, whose margin is greater than the
given one; `margins` are those around the innermost block. -/
def endBlocks (margin : Nat) (l : Layout) : (margins : List Nat) → Layout
  | [] => { l with margins := [] }
  | outer :: rest =>
    if margin < l.margin then
      endBlocks margin { l.push .blockEnd with margin := outer } rest
    else { l with margins := outer :: rest }

/-- Ends the blocks whose margin is greater than the given one. Brackets
know no blocks. -/
def unindent (l : Layout) (margin : Nat) : Layout :=
  if l.inFlow then l else endBlocks margin l l.margins

-- ================================================================ keys

/-- Gives up the possible key; `none` when it was required. -/
def dropKey? (l : Layout) : Option Layout :=
  match l.key with
  | some k => if k.required then none else some { l with key := none }
  | none => some l

/-- The key that may begin at the cursor. -/
def keyHere (l : Layout) : PossibleKey where
  number := l.count
  place := l.cursor.place
  required := !l.inFlow && l.margin = l.column + 1

/-- Remembers the cursor as a place where a key may have begun, if one is
allowed there. -/
def saveKey? (l : Layout) : Option Layout :=
  if l.keyAllowed then l.dropKey?.map fun l => { l with key := some l.keyHere }
  else some l

/-- The longest key that is written without a sign of its own. -/
def longestKey : Nat := 1024

/-- Whether a colon at a place is too late for a key: on another line, or
too far away. -/
def PossibleKey.isLate (k : PossibleKey) (p : Place) : Bool :=
  k.place.line < p.line || k.place.column + longestKey < p.column

/-- A possible key, unless it is too late for its colon; `none` when it
was required. -/
def refresh? (p : Place) : Option PossibleKey → Option (Option PossibleKey)
  | none => some none
  | some k =>
    if PossibleKey.isLate k p then if k.required then none else some none
    else some (some k)

/-- Gives up the possible keys whose colon is too late. -/
def dropLateKeys? (l : Layout) : Option Layout := do
  let outerKeys ← l.outerKeys.mapM (refresh? l.cursor.place)
  let key ← refresh? l.cursor.place l.key
  return { l with key := key, outerKeys := outerKeys }

-- ============================================================ brackets

/-- Goes inside brackets. -/
def enter (l : Layout) : Layout := { l with key := none, outerKeys := l.key :: l.outerKeys }

/-- Goes outside of the innermost brackets, if there are any. -/
def leave (l : Layout) : Layout :=
  match l.outerKeys with
  | [] => l
  | key :: rest => { l with key := key, outerKeys := rest }

end Layout

end ConsoleLinks.Yaml
