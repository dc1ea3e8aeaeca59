/-
What can stand in front of a node or at the head of a document: the
anchor that names it, the tag that says what it is, and the directives
that say what tag handles stand for.
-/
import ConsoleLinks.Text.Hex
import ConsoleLinks.Text.Utf8
import ConsoleLinks.Yaml.Place
import ConsoleLinks.Yaml.Token

namespace ConsoleLinks.Yaml

open Text

-- ============================================================= anchors

/-- What may follow the name of an anchor or alias. -/
def endsName (text : List Char) : Bool :=
  atGap text || (match text with
    | c :: _ => "?:,]\x7d%@\x60".toList.contains c
    | [] => true)

/-- Reads the name of an anchor or alias from behind its sign. -/
def anchorName? (c : Cursor) : Option (String × Cursor) :=
  let name := c.rest.takeWhile isNameChar
  let behind := c.skipWhile isNameChar
  if !name.isEmpty && endsName behind.rest then some (String.ofList name, behind) else none

-- ================================================================ tags

/-- The characters of a tag that stand for themselves. -/
def isTagChar (c : Char) : Bool :=
  isNameChar c || ";/?:@&=+$.!~*'()".toList.contains c

/-- The characters of a tag that is written out. -/
def isLongTagChar (c : Char) : Bool := isTagChar c || ",[]".toList.contains c

/-- How many further bytes a character has after its first one. -/
def furtherBytes? (b : Nat) : Option Nat :=
  if b < 0x80 then some 0
  else if 0xc0 ≤ b && b < 0xe0 then some 1
  else if 0xe0 ≤ b && b < 0xf0 then some 2
  else if 0xf0 ≤ b && b < 0xf8 then some 3
  else none

/-- Reads the characters of a tag. A percent sign and two hexadecimal
digits stand for a byte; a character written in this way is written so to
its last byte, `left` of which are still to come. The bytes read are kept
in reverse. -/
def tagBytes? (allowed : Char → Bool) (left : Nat) (read : List UInt8) :
    List Char → Option (List UInt8 × List Char)
  | '%' :: a :: b :: rest =>
    match Hex.read? 0 [a, b] with
    | none => none
    | some n =>
      let read := UInt8.ofNat n :: read
      if 0 < left then
        if 0x80 ≤ n && n < 0xc0 then tagBytes? allowed (left - 1) read rest else none
      else
        match furtherBytes? n with
        | some further => tagBytes? allowed further read rest
        | none => none
  | c :: rest =>
    if 0 < left || c = '%' then none
    else if allowed c then
      tagBytes? allowed 0 ((Text.bytes [c]).reverse ++ read) rest
    else some (read.reverse, c :: rest)
  | [] => if 0 < left then none else some (read.reverse, [])

/-- The text of a tag that is read from the front of a text, and what
follows it. -/
def tagText? (allowed : Char → Bool) (text : List Char) :
    Option (List Char × List Char) :=
  (tagBytes? allowed 0 [] text).map fun (bytes, rest) => (Utf8.decode bytes, rest)

/-- The same, for a tag that may not be empty. -/
def someTagText? (allowed : Char → Bool) (text : List Char) :
    Option (List Char × List Char) :=
  match tagText? allowed text with
  | some ([], _) | none => none
  | found => found

/-- Reads a tag from behind the sign that opens it: written out between
angle brackets, behind a handle that ends in a second sign, or behind the
handle that is only the sign. A sign by itself is a tag of its own. -/
def tagParts? (text : List Char) : Option (Token × List Char) :=
  match text with
  | '<' :: rest =>
    match someTagText? isLongTagChar rest with
    | some (found, '>' :: behind) => some (.tag "" (String.ofList found), behind)
    | _ => none
  | _ =>
    let name := text.takeWhile isNameChar
    match text.dropWhile isNameChar with
    | '!' :: rest =>
      (someTagText? isTagChar rest).map fun (found, behind) =>
        (.tag (String.ofList ('!' :: name ++ ['!'])) (String.ofList found), behind)
    | rest =>
      (tagText? isTagChar rest).map fun (found, behind) =>
        let all := name ++ found
        if all.isEmpty then (.tag "" "!", behind)
        else (.tag "!" (String.ofList all), behind)

/-- Reads a tag from behind the sign that opens it. A gap must follow,
or inside brackets a comma. -/
def tag? (inFlow : Bool) (c : Cursor) : Option (Token × Cursor) :=
  match tagParts? c.rest with
  | none => none
  | some (token, rest) =>
    if (inFlow && rest.head? = some ',') || atGap rest then some (token, c.moveTo rest)
    else none

-- ========================================================== directives

/-- Reads a number of at most nine digits. -/
def shortNumber? (text : List Char) : Option (Nat × List Char) :=
  let digits := text.takeWhile Char.isDigit
  if digits.isEmpty || 9 < digits.length then none
  else some (Nat.ofDigitChars 10 digits 0, text.dropWhile Char.isDigit)

/-- Reads a version: two numbers with a point between them. -/
def version? (text : List Char) : Option (Token × List Char) := do
  let (major, rest) ← shortNumber? text
  match rest with
  | '.' :: rest =>
    let (minor, rest) ← shortNumber? rest
    return (.version major minor, rest)
  | _ => none

/-- Reads a tag handle: the sign, or a name between two signs. -/
def handle? (text : List Char) : Option (List Char × List Char) :=
  match text with
  | '!' :: rest =>
    let name := rest.takeWhile isNameChar
    match rest.dropWhile isNameChar with
    | '!' :: rest => some ('!' :: name ++ ['!'], rest)
    | rest => if name.isEmpty then some (['!'], rest) else none
  | _ => none

/-- Reads a tag handle and what it stands for. -/
def tagHandle? (text : List Char) : Option (Token × List Char) := do
  let (handle, rest) ← handle? text
  match rest with
  | c :: _ =>
    if !isBlank c then none
    else
      let (stem, rest) ← someTagText? isLongTagChar (rest.dropWhile isBlank)
      if atGap rest then
        return (.tagHandle (String.ofList handle) (String.ofList stem), rest)
      else none
  | [] => none

/-- Reads a directive, a line of its own, from behind the percent
sign. -/
def directive? (c : Cursor) : Option (Token × Cursor) := do
  let name := c.rest.takeWhile isNameChar
  let rest := c.rest.dropWhile isNameChar
  if !atGap rest then none
  let rest := rest.dropWhile isBlank
  let (token, rest) ←
    if name = "YAML".toList then version? rest
    else if name = "TAG".toList then tagHandle? rest
    else none
  let c ← (c.moveTo rest).finishLine?
  return (token, c)

end ConsoleLinks.Yaml
