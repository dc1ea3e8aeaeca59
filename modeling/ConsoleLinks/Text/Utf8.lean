/-
UTF-8 as a machine that takes one byte at a time. It never fails: a
stretch of bytes that begins a character and cannot be continued, and a
byte that cannot begin one, are read as the replacement character.
Strict reading is lossy reading that lost nothing.
-/
import ConsoleLinks.Text.Bytes

namespace ConsoleLinks.Text.Utf8

/-- What stands for bytes that are no character. -/
def replacement : Char := '\uFFFD'

/-- A character whose first bytes have been read. -/
structure Begun where
  /-- The bits read so far. -/
  value : Nat
  /-- How many bytes are still to come, at least one. -/
  left : Nat
  /-- The least and the greatest byte that can come next. -/
  least : Nat
  greatest : Nat
deriving DecidableEq, Repr

/-- What a byte is where a character can begin. -/
inductive Opening where
  /-- A character by itself. -/
  | whole (c : Char)
  /-- The first byte of a longer character. -/
  | first (b : Begun)
  /-- No beginning of a character. -/
  | stray
deriving DecidableEq, Repr

/-- What a byte is where a character can begin. The ranges of the second
byte leave out forms that are longer than needed, surrogates and numbers
beyond the last character. -/
def opening (b : Nat) : Opening :=
  if b < 0x80 then .whole (Char.ofNat b)
  else if b < 0xc2 then .stray
  else if b < 0xe0 then .first ⟨b - 0xc0, 1, 0x80, 0xbf⟩
  else if b = 0xe0 then .first ⟨0, 2, 0xa0, 0xbf⟩
  else if b = 0xed then .first ⟨0xd, 2, 0x80, 0x9f⟩
  else if b < 0xf0 then .first ⟨b - 0xe0, 2, 0x80, 0xbf⟩
  else if b = 0xf0 then .first ⟨0, 3, 0x90, 0xbf⟩
  else if b < 0xf4 then .first ⟨b - 0xf0, 3, 0x80, 0xbf⟩
  else if b = 0xf4 then .first ⟨4, 3, 0x80, 0x8f⟩
  else .stray

/-- The state of reading. -/
structure Decoder where
  /-- The character that is being read. -/
  pending : Option Begun
  /-- The characters read, the last one first. -/
  read : List Char
deriving DecidableEq, Repr

namespace Decoder

/-- The state before the first byte. -/
def start : Decoder := ⟨none, []⟩

/-- Takes a byte where a character can begin. -/
def fresh (read : List Char) (b : Nat) : Decoder :=
  match opening b with
  | .whole c => ⟨none, c :: read⟩
  | .first begun => ⟨some begun, read⟩
  | .stray => ⟨none, replacement :: read⟩

/-- Takes a byte. -/
def step (d : Decoder) (byte : UInt8) : Decoder :=
  let b := byte.toNat
  match d.pending with
  | none => fresh d.read b
  | some begun =>
    if begun.least ≤ b ∧ b ≤ begun.greatest then
      let value := begun.value * 0x40 + b % 0x40
      if begun.left = 1 then ⟨none, Char.ofNat value :: d.read⟩
      else ⟨some ⟨value, begun.left - 1, 0x80, 0xbf⟩, d.read⟩
    else fresh (replacement :: d.read) b

/-- The characters read when no byte follows. -/
def finish (d : Decoder) : List Char :=
  match d.pending with
  | none => d.read.reverse
  | some _ => (replacement :: d.read).reverse

end Decoder

/-- The text of any bytes. -/
def decode (bytes : List UInt8) : List Char :=
  (bytes.foldl Decoder.step .start).finish

/-- The text whose bytes these are, if there is one. -/
def decode? (bytes : List UInt8) : Option (List Char) :=
  let text := decode bytes
  if Text.bytes text = bytes then some text else none

end ConsoleLinks.Text.Utf8
