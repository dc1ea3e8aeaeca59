/-
Texts that are something else than text when they stand without quotes:
nothing, truth values, and numbers. A text of this kind is written in
quotes, so that readers that know these forms take it for text as well.
-/
import ConsoleLinks.Text.Decimal
import ConsoleLinks.Text.Hex
import ConsoleLinks.Text.Scan

namespace ConsoleLinks.Yaml.Resolution

open Text

/-- The words that stand for nothing or for a truth value. -/
def reservedWords : List String :=
  ["", "~", "null", "Null", "NULL", "true", "True", "TRUE", "false", "False", "FALSE"]

-- ============================================================ integers

/-- The number that digits of a base stand for. -/
def readBase? (base : Nat) (text : List Char) : Option Nat :=
  let value (c : Char) : Option Nat := (Hex.digit? c).filter (· < base)
  if text.isEmpty then none
  else (text.mapM value).map fun digits => digits.foldl (base * · + ·) 0

/-- The number whose base is named in front of its digits. -/
def based? (text : List Char) : Option Nat :=
  match text with
  | '0' :: 'x' :: digits => readBase? 16 digits
  | '0' :: 'o' :: digits => readBase? 8 digits
  | '0' :: 'b' :: digits => readBase? 2 digits
  | _ => none

/-- Whether a text is a number of 128 bits with its base in front of the
digits, perhaps behind a sign. -/
def isBased (text : List Char) : Bool :=
  match text with
  | '-' :: body => (based? body).any (· ≤ Nat.pow 2 127)
  | '+' :: body => (based? body).any (· < Nat.pow 2 128)
  | body => (based? body).any (· < Nat.pow 2 128)

-- ============================================================= numbers

/-- A text without one sign in front of it. -/
def unsigned (text : List Char) : List Char :=
  match text with
  | '+' :: rest | '-' :: rest => rest
  | _ => text

/-- Whether a text consists of digits, more than one and the first of
them a zero, perhaps behind a sign. -/
def isPadded (text : List Char) : Bool :=
  match unsigned text with
  | '0' :: rest => !rest.isEmpty && rest.all Char.isDigit
  | _ => false

/-- The exponent that the rest of a number gives; none is zero. -/
def exponent? (text : List Char) : Option Int :=
  match text with
  | [] => some 0
  | c :: rest =>
    if c = 'e' || c = 'E' then
      match rest with
      | '-' :: digits => (Decimal.read? digits).map fun n => -(n : Int)
      | _ => (Decimal.read? ((afterWord? ['+'] rest).getD rest)).map Int.ofNat
    else none

/-- Whether a text is a decimal number within the range of double
precision: digits with perhaps a point among them or at either end, and
perhaps an exponent. -/
def isDecimal (text : List Char) : Bool :=
  let body := unsigned text
  let whole := body.takeWhile Char.isDigit
  let (fraction, rest) := match body.dropWhile Char.isDigit with
    | '.' :: rest => (rest.takeWhile Char.isDigit, rest.dropWhile Char.isDigit)
    | rest => ([], rest)
  match exponent? rest with
  | none => false
  | some e =>
    !(whole.isEmpty && fraction.isEmpty) &&
      !Decimal.exceedsDouble (whole ++ fraction) (e - fraction.length)

/-- The words for infinity and for what is no number. -/
def realWords : List String :=
  [".inf", ".Inf", ".INF", "+.inf", "+.Inf", "+.INF", "-.inf", "-.Inf", "-.INF",
   ".nan", ".NaN", ".NAN"]

/-- Whether a text without quotes is something else than text, or could
be taken for it. -/
def isAmbiguous (text : String) : Bool :=
  reservedWords.contains text || realWords.contains text || isBased text.toList
    || isPadded text.toList || isDecimal text.toList

end ConsoleLinks.Yaml.Resolution
