/-
JSON values, and the one text each is written as: no blanks, members in
the order they are given, characters outside ASCII as themselves.

The reader is in `Json.Reader`. Natural numbers are the only numbers the
library has a use for; any other keeps the text it was read from.
-/
import ConsoleLinks.Text.Hex

namespace ConsoleLinks

/-- A JSON value. -/
inductive Json where
  | null
  | bool (b : Bool)
  /-- A number without sign, fraction and exponent, within 64 bits. -/
  | natural (n : Nat)
  /-- Any other number, by its text. -/
  | number (literal : String)
  | str (s : String)
  | array (items : List Json)
  | object (members : List (String × Json))
deriving Inhabited, Repr

namespace Json

open Text

-- ============================================================= writing

/-- How one character stands inside a JSON string. -/
def escapeChar (c : Char) : List Char :=
  if c = '"' then ['\\', '"']
  else if c = '\\' then ['\\', '\\']
  else if c = '\n' then ['\\', 'n']
  else if c = '\r' then ['\\', 'r']
  else if c = '\t' then ['\\', 't']
  else if c = '\x08' then ['\\', 'b']
  else if c = '\x0c' then ['\\', 'f']
  else if c.toNat < 0x20 then ['\\', 'u'] ++ Hex.fixed Hex.lower 4 c.toNat
  else [c]

/-- A text as a JSON string. -/
def quote (s : String) : List Char := ['"'] ++ s.toList.flatMap escapeChar ++ ['"']

mutual

/-- The text of a value. -/
def render : Json → List Char
  | null => "null".toList
  | bool true => "true".toList
  | bool false => "false".toList
  | natural n => Nat.toDigits 10 n
  | number literal => literal.toList
  | str s => quote s
  | array items => ['['] ++ renderItems items ++ [']']
  | object members => ['\x7b'] ++ renderMembers members ++ ['\x7d']

/-- The items of an array, with commas between them. -/
def renderItems : List Json → List Char
  | [] => []
  | [item] => render item
  | item :: next :: rest => render item ++ [','] ++ renderItems (next :: rest)

/-- The members of an object, with commas between them. -/
def renderMembers : List (String × Json) → List Char
  | [] => []
  | [(key, value)] => quote key ++ [':'] ++ render value
  | (key, value) :: next :: rest =>
    quote key ++ [':'] ++ render value ++ [','] ++ renderMembers (next :: rest)

end

-- ============================================================= reading

/-- The text of a JSON string. -/
def text? : Json → Option String
  | str s => some s
  | _ => none

/-- The value of a natural number. -/
def natural? : Json → Option Nat
  | natural n => some n
  | _ => none

/-- The value of a member; of several with one name the last counts. -/
def member? (name : String) : Json → Option Json
  | object members => (members.reverse.find? (·.1 = name)).map (·.2)
  | _ => none

end Json

end ConsoleLinks
