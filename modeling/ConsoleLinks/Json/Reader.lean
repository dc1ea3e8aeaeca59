/-
Reading JSON text. A text that is not JSON is refused in one of two ways:
it ends before the value does, or it goes on with something that cannot
stand where it stands. Containers may be nested to a fixed depth.

Reading takes place in steps: each takes what it needs from the front of
the text and hands on the rest.
-/
import ConsoleLinks.Json.Value
import ConsoleLinks.Text.Scan
import ConsoleLinks.Text.Bytes
import ConsoleLinks.Text.Decimal

namespace ConsoleLinks.Json

open Text

/-- Why a text is not JSON. -/
inductive Fault where
  /-- The text ends before the value does. -/
  | endsEarly
  /-- Something stands where it cannot stand. -/
  | malformed
deriving DecidableEq, Repr

/-- What a step finds and the text behind it. -/
abbrev Read (α : Type) := Except Fault (α × List Char)

/-- White space between the parts of a JSON text. -/
def isSpace (c : Char) : Bool := c = ' ' || c = '\n' || c = '\r' || c = '\t'

/-- The text from the first character that is not white space. -/
def skipSpace (text : List Char) : List Char := text.dropWhile isSpace

/-- Reads the rest of a fixed word. -/
def word {α : Type} (found : α) : (rest text : List Char) → Read α
  | [], text => .ok (found, text)
  | _ :: _, [] => .error .endsEarly
  | w :: ws, c :: cs => if w = c then word found ws cs else .error .malformed

-- ============================================================= strings

/-- How far an escape has been read. -/
inductive Escape where
  | none
  /-- After the backslash. -/
  | begun
  /-- `left` hexadecimal digits are still to come. -/
  | code (left value : Nat) (high : Option Nat)
  /-- A high surrogate needs another escape after it: its backslash is
  to come. -/
  | pair (high : Nat)
  /-- The backslash of that escape has been read. -/
  | pairBegun (high : Nat)

/-- The character that a one-letter escape stands for. -/
def escaped? (c : Char) : Option Char :=
  match c with
  | '"' => some '"'
  | '\\' => some '\\'
  | '/' => some '/'
  | 'b' => some '\x08'
  | 'f' => some '\x0c'
  | 'n' => some '\n'
  | 'r' => some '\r'
  | 't' => some '\t'
  | _ => none

/-- The character of a surrogate pair. -/
def joinPair (high low : Nat) : Char :=
  Char.ofNat ((high - 0xd800) * 0x400 + (low - 0xdc00) + 0x10000)

/-- Reads a string from behind its opening quote. The characters read are
kept in reverse. -/
def string (state : Escape) (read : List Char) : List Char → Read (List Char)
  | [] => .error .endsEarly
  | c :: rest =>
    match state with
    | .none =>
      if c = '"' then .ok (read.reverse, rest)
      else if c = '\\' then string .begun read rest
      else if c.toNat < 0x20 then .error .malformed
      else string .none (c :: read) rest
    | .begun =>
      match escaped? c with
      | some d => string .none (d :: read) rest
      | none =>
        if c = 'u' then string (.code 4 0 none) read rest else .error .malformed
    | .code left value high =>
      match Hex.digit? c with
      | none => .error (if byteLength (c :: rest) < left then .endsEarly else .malformed)
      | some d =>
        let n := 16 * value + d
        if 1 < left then string (.code (left - 1) n high) read rest
        else
          match high with
          | some h =>
            if 0xdc00 ≤ n ∧ n < 0xe000 then string .none (joinPair h n :: read) rest
            else .error .malformed
          | none =>
            if 0xd800 ≤ n ∧ n < 0xdc00 then string (.pair n) read rest
            else if 0xdc00 ≤ n ∧ n < 0xe000 then .error .malformed
            else string .none (Char.ofNat n :: read) rest
    | .pair high =>
      if c = '\\' then string (.pairBegun high) read rest else .error .malformed
    | .pairBegun high =>
      if c = 'u' then string (.code 4 0 (some high)) read rest else .error .malformed

-- ============================================================= numbers

/-- Reads a run of at least one digit. -/
def digitRun (text : List Char) : Read (List Char) :=
  match text with
  | [] => .error .endsEarly
  | c :: _ =>
    if c.isDigit then .ok (text.takeWhile Char.isDigit, text.dropWhile Char.isDigit)
    else .error .malformed

/-- Reads the whole part of a number: no zero in front of other
digits. -/
def wholePart (text : List Char) : Read (List Char) :=
  match text with
  | '0' :: rest =>
    if (rest.head?.map Char.isDigit).getD false then .error .malformed
    else .ok (['0'], rest)
  | _ => digitRun text

/-- Reads the fraction of a number, if there is one. -/
def fractionPart (text : List Char) : Read (List Char) :=
  match text with
  | '.' :: rest => digitRun rest
  | _ => .ok ([], text)

/-- Reads the exponent of a number, if there is one: whether it is
negative, and its digits. -/
def exponentPart (text : List Char) : Read (Option (Bool × List Char)) :=
  let signed (rest : List Char) : Read (Option (Bool × List Char)) :=
    let (negative, rest) := match rest with
      | '-' :: r => (true, r)
      | '+' :: r => (false, r)
      | r => (false, r)
    match digitRun rest with
    | .error e => .error e
    | .ok (ds, rest) => .ok (some (negative, ds), rest)
  match text with
  | 'e' :: rest | 'E' :: rest => signed rest
  | _ => .ok (none, text)

/-- The value of a number given by its parts; one beyond the range of
double precision is malformed. -/
def ofParts (negative : Bool) (whole fraction : List Char)
    (exponent : Option (Bool × List Char)) (literal : List Char) :
    Except Fault Json :=
  let n := Nat.ofDigitChars 10 whole 0
  if !negative && fraction.isEmpty && exponent.isNone && n < UInt64.size then
    .ok (.natural n)
  else
    let shift : Int := match exponent with
      | none => 0
      | some (true, ds) => -(Nat.ofDigitChars 10 ds 0 : Nat)
      | some (false, ds) => (Nat.ofDigitChars 10 ds 0 : Nat)
    if Decimal.exceedsDouble (whole ++ fraction) (shift - fraction.length) then
      .error .malformed
    else .ok (.number (String.ofList literal))

/-- Reads a number. -/
def numeral (text : List Char) : Read Json :=
  let (negative, rest) := match text with
    | '-' :: r => (true, r)
    | r => (false, r)
  match wholePart rest with
  | .error e => .error e
  | .ok (whole, rest) =>
    match fractionPart rest with
    | .error e => .error e
    | .ok (fraction, rest) =>
      match exponentPart rest with
      | .error e => .error e
      | .ok (exponent, rest) =>
        match ofParts negative whole fraction exponent
            (text.take (text.length - rest.length)) with
        | .error e => .error e
        | .ok value => .ok (value, rest)

-- ========================================================== containers

/-- Reads the mark that ends a container or leads to its next part:
`true` when a part follows. `first` says that none has been read yet. -/
def nextPart (close : Char) (first : Bool) (text : List Char) : Read Bool :=
  match skipSpace text with
  | [] => .error .endsEarly
  | c :: rest =>
    if c = close then .ok (false, rest)
    else if first then .ok (true, c :: rest)
    else if c = ',' then
      match skipSpace rest with
      | [] => .error .endsEarly
      | d :: behind =>
        if d = close then .error .malformed else .ok (true, d :: behind)
    else .error .malformed

/-- Reads the name of a member and the colon behind it. -/
def memberName (text : List Char) : Read (List Char) :=
  match text with
  | '"' :: rest => string .none [] rest
  | [] => .error .endsEarly
  | _ => .error .malformed

/-- Reads the colon between the name of a member and its value. -/
def colon (text : List Char) : Read Unit :=
  match skipSpace text with
  | [] => .error .endsEarly
  | ':' :: rest => .ok ((), rest)
  | _ => .error .malformed

mutual

/-- Reads a value in which containers are nested to `depth` at most. -/
def value : (fuel depth : Nat) → List Char → Read Json
  | 0, _, _ => .error .malformed
  | fuel + 1, depth, text =>
    match skipSpace text with
    | [] => .error .endsEarly
    | 'n' :: rest => word .null "ull".toList rest
    | 't' :: rest => word (.bool true) "rue".toList rest
    | 'f' :: rest => word (.bool false) "alse".toList rest
    | '"' :: rest =>
      match string .none [] rest with
      | .error e => .error e
      | .ok (s, rest) => .ok (.str (String.ofList s), rest)
    | '[' :: rest =>
      if depth = 0 then .error .malformed
      else
        match items fuel (depth - 1) [] rest with
        | .error e => .error e
        | .ok (found, rest) => .ok (.array found, rest)
    | '\x7b' :: rest =>
      if depth = 0 then .error .malformed
      else
        match members fuel (depth - 1) [] rest with
        | .error e => .error e
        | .ok (found, rest) => .ok (.object found, rest)
    | c :: rest =>
      if c = '-' || c.isDigit then numeral (c :: rest) else .error .malformed

/-- Reads the items of an array, from behind its opening bracket or an
item. The items read are kept in reverse. -/
def items : (fuel depth : Nat) → (read : List Json) → List Char → Read (List Json)
  | 0, _, _, _ => .error .malformed
  | fuel + 1, depth, read, text =>
    match nextPart ']' read.isEmpty text with
    | .error e => .error e
    | .ok (false, rest) => .ok (read.reverse, rest)
    | .ok (true, rest) =>
      match value fuel depth rest with
      | .error e => .error e
      | .ok (item, rest) => items fuel depth (item :: read) rest

/-- Reads the members of an object, from behind its opening brace or a
member. The members read are kept in reverse. -/
def members : (fuel depth : Nat) → (read : List (String × Json)) → List Char →
    Read (List (String × Json))
  | 0, _, _, _ => .error .malformed
  | fuel + 1, depth, read, text =>
    match nextPart '\x7d' read.isEmpty text with
    | .error e => .error e
    | .ok (false, rest) => .ok (read.reverse, rest)
    | .ok (true, rest) =>
      match memberName rest with
      | .error e => .error e
      | .ok (name, rest) =>
        match colon rest with
        | .error e => .error e
        | .ok (_, rest) =>
          match value fuel depth rest with
          | .error e => .error e
          | .ok (found, rest) =>
            members fuel depth ((String.ofList name, found) :: read) rest

end

-- ================================================================ text

/-- How deep containers may be nested. -/
def maxDepth : Nat := 127

/-- Steps enough for any value in a text: two for each character. -/
def fuelFor (text : List Char) : Nat := 2 * text.length + 2

/-- The end of a text: nothing but white space. -/
def finish {α : Type} (found : α) (rest : List Char) : Except Fault α :=
  if (skipSpace rest).isEmpty then .ok found else .error .malformed

/-- The value of a JSON text. -/
def read (text : List Char) : Except Fault Json :=
  match value (fuelFor text) maxDepth text with
  | .error e => .error e
  | .ok (found, rest) => finish found rest

end ConsoleLinks.Json
