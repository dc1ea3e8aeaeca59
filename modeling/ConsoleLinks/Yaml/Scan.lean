/-
From the text of a document to its tokens. Each step reads one token, and
with it those that the layout adds; between tokens there are blanks,
comments and line breaks.
-/
import ConsoleLinks.Yaml.Layout
import ConsoleLinks.Yaml.Property
import ConsoleLinks.Yaml.Scalar.Plain
import ConsoleLinks.Yaml.Scalar.Quoted
import ConsoleLinks.Yaml.Scalar.Block

namespace ConsoleLinks.Yaml

-- ====================================================== between tokens

/-- Moves to the next token: over blanks, comments, line breaks, and the
byte order mark at the front of a line. Behind a line break a key may
begin, except in brackets; where one may begin, tabs are no blanks. -/
def skipToToken (inFlow keyAllowed inComment : Bool) (place : Place) :
    List Char → Bool × Cursor
  | [] => (keyAllowed, ⟨place, []⟩)
  | c :: rest =>
    if isBreak c then skipToToken inFlow (keyAllowed || !inFlow) false (place.next c) rest
    else if inComment then skipToToken inFlow keyAllowed true (place.next c) rest
    else if (c = byteOrderMark && place.column = 0) || c = ' '
        || (c = '\t' && (inFlow || !keyAllowed)) then
      skipToToken inFlow keyAllowed false (place.next c) rest
    else if c = '#' then skipToToken inFlow keyAllowed true (place.next c) rest
    else (keyAllowed, ⟨place, c :: rest⟩)

namespace Layout

def toToken (l : Layout) : Layout :=
  let (keyAllowed, cursor) :=
    skipToToken l.inFlow l.keyAllowed false l.cursor.place l.cursor.rest
  { l with keyAllowed := keyAllowed, cursor := cursor }

-- ======================================================= single tokens

/-- Reads a directive. -/
def directive (l : Layout) : Option Layout := do
  let l ← (l.unindent 0).dropKey?
  let (token, cursor) ← directive? l.cursor.skip
  return { l.push token with cursor := cursor, keyAllowed := false }

/-- Reads the mark of a document's start or end. -/
def documentMark (t : Token) (l : Layout) : Option Layout := do
  let l ← (l.unindent 0).dropKey?
  return { (l.push t).skip 3 with keyAllowed := false }

/-- Reads an opening bracket. -/
def openFlow (t : Token) (l : Layout) : Option Layout := do
  let l ← l.saveKey?
  return { (l.enter.push t).skip 1 with keyAllowed := true }

/-- Reads a closing bracket. -/
def closeFlow (t : Token) (l : Layout) : Option Layout := do
  let l ← l.dropKey?
  return { (l.leave.push t).skip 1 with keyAllowed := false }

/-- Reads a comma. -/
def flowEntry (l : Layout) : Option Layout := do
  let l ← l.dropKey?
  return { (l.push .flowEntry).skip 1 with keyAllowed := true }

/-- Reads the sign of an item, which can begin a block of them. -/
def blockEntry (l : Layout) : Option Layout := do
  if !l.inFlow && !l.keyAllowed then none
  let l ← (l.indent l.column l.count .blockSequenceStart).dropKey?
  return { (l.push .blockEntry).skip 1 with keyAllowed := true }

/-- Reads the sign of a key, which can begin a block of them. -/
def explicitKey (l : Layout) : Option Layout := do
  if !l.inFlow && !l.keyAllowed then none
  let l ← (l.indent l.column l.count .blockMappingStart).dropKey?
  return { (l.push .key).skip 1 with keyAllowed := !l.inFlow }

/-- Reads the colon of a value. Where a key has begun, its token and the
start of its block are put in front of it. -/
def value (l : Layout) : Option Layout :=
  match l.key with
  | some k =>
    let l := (l.insert k.number .key).indent k.place.column k.number .blockMappingStart
    some { (l.push .value).skip 1 with key := none, keyAllowed := false }
  | none =>
    if !l.inFlow && !l.keyAllowed then none
    else
      let l := l.indent l.column l.count .blockMappingStart
      some { (l.push .value).skip 1 with keyAllowed := !l.inFlow }

/-- Reads the name of an anchor or alias behind its sign. -/
def named (token : String → Token) (l : Layout) : Option Layout := do
  let l ← l.saveKey?
  let (name, cursor) ← anchorName? l.cursor.skip
  return { l.push (token name) with cursor := cursor, keyAllowed := false }

/-- Reads a tag. -/
def tag (l : Layout) : Option Layout := do
  let l ← l.saveKey?
  let (token, cursor) ← tag? l.inFlow l.cursor.skip
  return { l.push token with cursor := cursor, keyAllowed := false }

/-- Adds a scalar that has been read. -/
def pushScalar (l : Layout) (style : ScalarStyle) (text : List Char) (cursor : Cursor)
    (keyAllowed : Bool) : Layout :=
  { l.push (.scalar style (String.ofList text)) with
    cursor := cursor, keyAllowed := keyAllowed }

/-- Reads a block scalar. -/
def blockScalar (style : ScalarStyle) (l : Layout) : Option Layout := do
  let l ← l.dropKey?
  let (text, cursor) ← Block.read (style = .folded) l.margin l.cursor.skip
  return l.pushScalar style text cursor true

/-- Reads a quoted scalar. -/
def quotedScalar (style : ScalarStyle) (l : Layout) : Option Layout := do
  let l ← l.saveKey?
  let c := l.cursor.skip
  let (text, cursor) ←
    if style = .singleQuoted then Quoted.scanSingle {} [] c.place c.rest
    else Quoted.scanDouble .none {} [] c.place c.rest
  return l.pushScalar style text cursor false

/-- Reads a plain scalar. -/
def plainScalar (l : Layout) : Option Layout := do
  let l ← l.saveKey?
  let ((text, broken), cursor) ←
    Plain.scan l.inFlow l.margin {} [] l.cursor.place l.cursor.rest
  return l.pushScalar .plain text cursor broken

-- ============================================================== tokens

/-- Whether a plain scalar can begin with a character in front of a
text. -/
def beginsPlain (inFlow : Bool) (c : Char) (rest : List Char) : Bool :=
  !(isBlank c || "-?:,[]\x7b\x7d#&*!|>'\"%@\x60".toList.contains c)
    || (c = '-' && !(rest.head?.map isBlank).getD false)
    || (!inFlow && (c = '?' || c = ':') && !atGap rest)

/-- Reads the token that begins with a character in front of a text. -/
def token (l : Layout) (c : Char) (rest : List Char) : Option Layout :=
  let atStart := l.column = 0
  if atStart && c = '%' then l.directive
  else if atStart && isMark '-' (c :: rest) then l.documentMark .documentStart
  else if atStart && isMark '.' (c :: rest) then l.documentMark .documentEnd
  else if c = '[' then l.openFlow .flowSequenceStart
  else if c = '\x7b' then l.openFlow .flowMappingStart
  else if c = ']' then l.closeFlow .flowSequenceEnd
  else if c = '\x7d' then l.closeFlow .flowMappingEnd
  else if c = ',' then l.flowEntry
  else if c = '-' && atGap rest then l.blockEntry
  else if c = '?' && (l.inFlow || atGap rest) then l.explicitKey
  else if c = ':' && (l.inFlow || atGap rest) then l.value
  else if c = '*' then l.named .reference
  else if c = '&' then l.named .anchor
  else if c = '!' then l.tag
  else if c = '|' && !l.inFlow then l.blockScalar .literal
  else if c = '>' && !l.inFlow then l.blockScalar .folded
  else if c = '\'' then l.quotedScalar .singleQuoted
  else if c = '"' then l.quotedScalar .doubleQuoted
  else if beginsPlain l.inFlow c rest then l.plainScalar
  else none

/-- Reads tokens to the end of the text. Each step but the last moves the
cursor on, so as many steps are enough as there are characters. -/
def tokensFrom : (fuel : Nat) → Layout → Option (List Token)
  | 0, _ => none
  | fuel + 1, l =>
    match l.toToken.dropLateKeys? with
    | none => none
    | some l =>
      let l := l.unindent (l.column + 1)
      match l.cursor.rest with
      | [] => (l.unindent 0).dropKey?.map (·.tokens.reverse)
      | c :: rest =>
        match l.token c rest with
        | none => none
        | some l => tokensFrom fuel l

end Layout

/-- The tokens of a text, if it has any reading. -/
def tokens? (text : List Char) : Option (List Token) :=
  if text.all isAllowed then
    let text := unifyBreaks text
    Layout.tokensFrom (text.length + 1) { cursor := ⟨⟨0, 0⟩, text⟩ }
  else none

end ConsoleLinks.Yaml
