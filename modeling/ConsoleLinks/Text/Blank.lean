/-
White space: the characters with the White_Space property, and the trims
that remove them from the ends of a text.

Text layer. Every place where the formats speak of blanks (indentation of
console lines, level names, blank configuration files) means this set.
-/
import ConsoleLinks.Text.Ranges

namespace ConsoleLinks.Text

/-- The code points with the White_Space property. -/
def blankRanges : Ranges :=
  [(0x9, 0xd), (0x20, 0x20), (0x85, 0x85), (0xa0, 0xa0), (0x1680, 0x1680),
   (0x2000, 0x200a), (0x2028, 0x2029), (0x202f, 0x202f), (0x205f, 0x205f),
   (0x3000, 0x3000)]

/-- White space: tab to carriage return, the space, and the other
separators of the White_Space property. -/
def isBlank (c : Char) : Bool := blankRanges.covers c.toNat

/-- A text without its leading white space. -/
def dropBlanks (s : List Char) : List Char := s.dropWhile isBlank

/-- A text without its trailing white space. -/
def dropBlanksEnd (s : List Char) : List Char :=
  (s.reverse.dropWhile isBlank).reverse

/-- A text without white space at either end. -/
def trim (s : List Char) : List Char := dropBlanksEnd (dropBlanks s)

theorem isBlank_space : isBlank ' ' = true := by decide

theorem isBlank_newline : isBlank '\n' = true := by decide

end ConsoleLinks.Text
