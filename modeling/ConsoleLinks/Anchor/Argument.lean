/-
Text inside a double-quoted argument of a link's payload. The payload
stands in a single-quoted attribute, so neither kind of quote may survive
as itself, nor an ampersand, which would begin a character reference;
control characters are written as escapes too. No escape is the beginning
of another, so an argument ends at the first quote that no backslash
precedes.
-/
import ConsoleLinks.Text.Hex

namespace ConsoleLinks.Anchor

open Text

/-- A control character: below the space, or from delete to the end of
the second control block. -/
def isControl (c : Char) : Bool :=
  c.toNat < 0x20 || (0x7f ≤ c.toNat && c.toNat < 0xa0)

/-- How one character stands inside an argument. -/
def escapeChar (c : Char) : List Char :=
  if c = '\\' then ['\\', '\\']
  else if c = '"' then ['\\', '"']
  else if c = '\'' then ['\\', 'x', '2', '7']
  else if c = '&' then ['\\', 'x', '2', '6']
  else if c = '\n' then ['\\', 'n']
  else if c = '\r' then ['\\', 'r']
  else if c = '\t' then ['\\', 't']
  else if isControl c then ['\\', 'u'] ++ Hex.fixed Hex.lower 4 c.toNat
  else [c]

/-- A text as it stands inside an argument. -/
def escape (text : List Char) : List Char := text.flatMap escapeChar

theorem escape_cons (c : Char) (text : List Char) :
    escape (c :: text) = escapeChar c ++ escape text := rfl

end ConsoleLinks.Anchor
