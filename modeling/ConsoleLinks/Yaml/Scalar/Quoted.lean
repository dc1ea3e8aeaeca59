/-
Quoted scalars. Between single quotes a quote is written twice and all
else stands for itself; between double quotes a backslash begins an
escape. In both, gaps that reach over the end of a line are folded, and
the marks of a document's ends may not begin a line.
-/
import ConsoleLinks.Text.Hex
import ConsoleLinks.Yaml.Gap
import ConsoleLinks.Yaml.Place

namespace ConsoleLinks.Yaml.Quoted

open Text

/-- How far an escape has been read. -/
inductive Escape where
  | none
  /-- Behind the backslash. -/
  | begun
  /-- `left` hexadecimal digits are still to come. -/
  | code (left value : Nat)
deriving DecidableEq, Repr

/-- The character that a one-letter escape stands for. -/
def escaped? (c : Char) : Option Char :=
  match c with
  | '0' => some '\x00'
  | 'a' => some '\x07'
  | 'b' => some '\x08'
  | 't' | '\t' => some '\t'
  | 'n' => some '\n'
  | 'v' => some '\x0b'
  | 'f' => some '\x0c'
  | 'r' => some '\r'
  | 'e' => some '\x1b'
  | ' ' => some ' '
  | '"' => some '"'
  | '/' => some '/'
  | '\\' => some '\\'
  | 'N' => some '\u0085'
  | '_' => some '\u00A0'
  | 'L' => some '\u2028'
  | 'P' => some '\u2029'
  | _ => none

/-- How many hexadecimal digits follow the letter of an escape. -/
def codeWidth? (c : Char) : Option Nat :=
  match c with
  | 'x' => some 2
  | 'u' => some 4
  | 'U' => some 8
  | _ => none

/-- The character of a number, unless it is a surrogate or too large. -/
def ofCode? (n : Nat) : Option Char := if n.isValidChar then some (Char.ofNat n) else none

/-- Reads a single-quoted scalar from behind its opening quote. The
characters read are kept in reverse. -/
def scanSingle (gap : Gap) (read : List Char) (place : Place) :
    List Char → Option (List Char × Cursor)
  | [] => none
  | '\'' :: '\'' :: rest =>
    scanSingle {} ('\'' :: gap.onto read) ((place.next '\'').next '\'') rest
  | c :: rest =>
    if isBlank c || isBreak c then
      scanSingle (gap.push c) read (place.next c) rest
    else if place.column = 0 && isDocumentMark (c :: rest) then none
    else if c = '\'' then some ((gap.onto read).reverse, ⟨place.next c, rest⟩)
    else scanSingle {} (c :: gap.onto read) (place.next c) rest

/-- Reads a double-quoted scalar from behind its opening quote. The
characters read are kept in reverse. -/
def scanDouble (escape : Escape) (gap : Gap) (read : List Char) (place : Place) :
    List Char → Option (List Char × Cursor)
  | [] => none
  | c :: rest =>
    let place' := place.next c
    match escape with
    | .none =>
      if isBlank c || isBreak c then scanDouble .none (gap.push c) read place' rest
      else if place.column = 0 && isDocumentMark (c :: rest) then none
      else if c = '"' then some ((gap.onto read).reverse, ⟨place', rest⟩)
      else if c = '\\' then scanDouble .begun {} (gap.onto read) place' rest
      else scanDouble .none {} (c :: gap.onto read) place' rest
    | .begun =>
      if isBreak c then scanDouble .none { joined := true } read place' rest
      else
        match escaped? c, codeWidth? c with
        | some d, _ => scanDouble .none {} (d :: read) place' rest
        | none, some width => scanDouble (.code width 0) {} read place' rest
        | none, none => none
    | .code left value =>
      match Hex.digit? c with
      | none => none
      | some d =>
        let n := 16 * value + d
        if 1 < left then scanDouble (.code (left - 1) n) {} read place' rest
        else
          match ofCode? n with
          | some found => scanDouble .none {} (found :: read) place' rest
          | none => none

end ConsoleLinks.Yaml.Quoted
