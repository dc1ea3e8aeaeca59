/-
The characters of YAML documents. Line breaks come in five spellings; the
three that mean no more than the end of a line are made one before
anything else is read (`unifyBreaks`), so that the rest of the reader
knows line feeds and the two separators of lines and paragraphs.
-/

namespace ConsoleLinks.Yaml

/-- The mark that may stand at the front of a text. -/
def byteOrderMark : Char := '\uFEFF'

/-- Whether a character may stand in a document as itself. -/
def isAllowed (c : Char) : Bool :=
  let n := c.toNat
  n = 0x9 || n = 0xa || n = 0xd || (0x20 ≤ n && n ≤ 0x7e) || n = 0x85
    || (0xa0 ≤ n && n ≤ 0xd7ff) || (0xe000 ≤ n && n ≤ 0xfffd) || 0x10000 ≤ n

/-- The line breaks that are left when they have been unified. -/
def isBreak (c : Char) : Bool := c = '\n' || c = '\u2028' || c = '\u2029'

/-- White space within a line. -/
def isBlank (c : Char) : Bool := c = ' ' || c = '\t'

/-- Whether a text is at an end of a word: white space, a line break, or
the end of everything. -/
def atGap : List Char → Bool
  | [] => true
  | c :: _ => isBlank c || isBreak c

/-- The characters of names: of anchors, tag handles and directives. -/
def isNameChar (c : Char) : Bool := c.isAlphanum || c = '_' || c = '-'

/-- The text with every carriage return, next line, or carriage return
and line feed turned into a line feed. -/
def unifyBreaks : List Char → List Char
  | [] => []
  | '\r' :: '\n' :: rest => '\n' :: unifyBreaks rest
  | c :: rest => (if c = '\r' || c = '\u0085' then '\n' else c) :: unifyBreaks rest

/-- Whether a line that begins here is the mark of a document's start or
end, made of three of the given character. -/
def isMark (c : Char) (line : List Char) : Bool :=
  match line with
  | a :: b :: d :: rest => a = c && b = c && d = c && atGap rest
  | _ => false

/-- Whether a line that begins here is the mark of either end of a
document. -/
def isDocumentMark (line : List Char) : Bool := isMark '-' line || isMark '.' line

end ConsoleLinks.Yaml
