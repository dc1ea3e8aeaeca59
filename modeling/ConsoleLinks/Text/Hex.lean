/-
Hexadecimal numbers, as the escapes of the quoted formats write and read
them.
-/

namespace ConsoleLinks.Text.Hex

/-- The value of a hexadecimal digit of either case. -/
def digit? (c : Char) : Option Nat :=
  if '0' ≤ c ∧ c ≤ '9' then some (c.toNat - '0'.toNat)
  else if 'a' ≤ c ∧ c ≤ 'f' then some (c.toNat - 'a'.toNat + 10)
  else if 'A' ≤ c ∧ c ≤ 'F' then some (c.toNat - 'A'.toNat + 10)
  else none

/-- The value of a run of hexadecimal digits, most significant first,
going on from the digits already read. -/
def read? (sofar : Nat) : List Char → Option Nat
  | [] => some sofar
  | c :: rest =>
    match digit? c with
    | none => none
    | some d => read? (16 * sofar + d) rest

/-- The lower-case digit of a value below sixteen. -/
def lower (n : Nat) : Char :=
  if n < 10 then Char.ofNat ('0'.toNat + n) else Char.ofNat ('a'.toNat + n - 10)

/-- The upper-case digit of a value below sixteen. -/
def upper (n : Nat) : Char :=
  if n < 10 then Char.ofNat ('0'.toNat + n) else Char.ofNat ('A'.toNat + n - 10)

/-- The last `width` hexadecimal digits of a number, in the given case. -/
def fixed (digit : Nat → Char) : (width n : Nat) → List Char
  | 0, _ => []
  | width + 1, n => fixed digit width (n / 16) ++ [digit (n % 16)]

/-- The lower-case hexadecimal digits of a number, without leading
zeros. -/
def digits (n : Nat) : List Char := Nat.toDigits 16 n

end ConsoleLinks.Text.Hex
