/-
Decimal numbers as the formats write them (no sign, no leading zero) and
as a console line may show them (any number of ASCII digits). Reading is
the inverse of writing on every number.
-/
import ConsoleLinks.Text.Digit

namespace ConsoleLinks.Text.Decimal

/-- The decimal digits of a number, most significant first. -/
def digits (n : Nat) : List Char := Nat.toDigits 10 n

/-- The number a non-empty run of ASCII digits stands for; any other
text has none. -/
def read? (text : List Char) : Option Nat :=
  if text.isEmpty || !text.all Char.isDigit then none
  else some (Nat.ofDigitChars 10 text 0)

theorem digits_ne_nil (n : Nat) : digits n ≠ [] := Nat.toDigits_ne_nil

theorem isDigit_of_mem_digits {n : Nat} {c : Char} (h : c ∈ digits n) :
    c.isDigit = true :=
  Nat.isDigit_of_mem_toDigits (by decide) (by decide) h

theorem read?_digits (n : Nat) : read? (digits n) = some n := by
  have hall : (digits n).all Char.isDigit = true :=
    List.all_eq_true.2 fun _ h => isDigit_of_mem_digits h
  have hne : (digits n).isEmpty = false := by
    simp [digits_ne_nil n]
  simp only [read?, hne, hall, Bool.not_true, Bool.or_self]
  simp [digits]

-- ========================================================= real numbers

/-- The least number that is nearer to the power of two above the double
precision numbers than to the largest of them. -/
def doubleLimit : Nat := Nat.pow 2 1024 - Nat.pow 2 970

/-- Whether the number `significand * 10 ^ exponent` lies beyond the
range of double precision, the significand being given by its digits.
Most numbers are decided by their order of magnitude. -/
def exceedsDouble (significand : List Char) (exponent : Int) : Bool :=
  let leading := significand.dropWhile (· = '0')
  let order : Int := leading.length + exponent
  if leading.isEmpty || order < 300 then false
  else if 400 < order then true
  else
    let n := Nat.ofDigitChars 10 leading 0
    if 0 ≤ exponent then decide (doubleLimit ≤ n * Nat.pow 10 exponent.toNat)
    else decide (doubleLimit * Nat.pow 10 (-exponent).toNat ≤ n)

end ConsoleLinks.Text.Decimal

namespace ConsoleLinks.Text

/-- A line or column number: at least one, and within 32 bits. -/
def position? (text : List Char) : Option UInt32 :=
  match Decimal.read? text with
  | none => none
  | some n => if 0 < n ∧ n < UInt32.size then some (UInt32.ofNat n) else none

end ConsoleLinks.Text
