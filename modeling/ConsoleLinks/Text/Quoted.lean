/-
Quoted text, the form in which log records and error messages show a
text: between double quotes, on one line, with every character that has
no sign of its own written as a number.

Written only, never read back.
-/
import ConsoleLinks.Text.Unseen
import ConsoleLinks.Text.Hex

namespace ConsoleLinks.Text.Quoted

/-- How one character stands between the quotes. A single quote needs no
escape. -/
def escape (c : Char) : List Char :=
  if c = '\x00' then ['\\', '0']
  else if c = '\t' then ['\\', 't']
  else if c = '\n' then ['\\', 'n']
  else if c = '\r' then ['\\', 'r']
  else if c = '"' then ['\\', '"']
  else if c = '\\' then ['\\', '\\']
  else if isUnseen c then ['\\', 'u', '\x7b'] ++ Hex.digits c.toNat ++ ['\x7d']
  else [c]

/-- A text between double quotes. -/
def quote (text : String) : String :=
  String.ofList (['"'] ++ text.toList.flatMap escape ++ ['"'])

end ConsoleLinks.Text.Quoted
