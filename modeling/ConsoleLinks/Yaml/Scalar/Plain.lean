/-
Plain scalars: words without quotes. They end where something could be
taken for structure: at a colon in front of a gap, at a comment, at the
mark of a document's end, at a line that is not indented far enough, and
inside brackets at the signs that brackets use.
-/
import ConsoleLinks.Yaml.Gap
import ConsoleLinks.Yaml.Place

namespace ConsoleLinks.Yaml.Plain

/-- The signs that separate and enclose inside brackets. -/
def isFlowSign (c : Char) : Bool :=
  c = ',' || c = '[' || c = ']' || c = '\x7b' || c = '\x7d'

/-- Whether a colon in front of this text is one that brackets do not
allow. -/
def clashes (behind : List Char) : Bool :=
  match behind with
  | c :: _ => isFlowSign c || c = '?'
  | [] => false

/-- Whether no further word of the scalar begins here, behind a gap. -/
def endsBehind (inFlow : Bool) (margin : Nat) (gap : Gap) (place : Place)
    (text : List Char) : Bool :=
  (place.column = 0 && isDocumentMark text) || text.head? = some '#'
    || (!inFlow && gap.broken && place.column < margin)

/-- Reads a plain scalar. Lines that it goes on with start at `margin` or
behind it, unless it stands inside brackets. Found are its text, and
whether the last thing read was a line break. The characters read are
kept in reverse. -/
def scan (inFlow : Bool) (margin : Nat) (gap : Gap) (read : List Char)
    (place : Place) : List Char → Option ((List Char × Bool) × Cursor)
  | [] => some ((read.reverse, gap.broken), ⟨place, []⟩)
  | c :: rest =>
    if isBlank c || isBreak c then
      if gap.broken && place.column < margin && c = '\t' then none
      else scan inFlow margin (gap.push c) read (place.next c) rest
    else if !gap.isEmpty && endsBehind inFlow margin gap place (c :: rest) then
      some ((read.reverse, gap.broken), ⟨place, c :: rest⟩)
    else if inFlow && c = ':' && clashes rest then none
    else if (c = ':' && atGap rest) || (inFlow && isFlowSign c) then
      some ((read.reverse, gap.broken), ⟨place, c :: rest⟩)
    else scan inFlow margin {} (c :: gap.onto read) (place.next c) rest

end ConsoleLinks.Yaml.Plain
