/-
Hexadecimal digits, written and read back: the digits of a fixed width
that an escape shows are read as the number they were written for
(`read?_fixed`), whichever case the writer of the escape uses.
-/
import ConsoleLinks.Text.Hex

namespace ConsoleLinks.Text.Hex

variable {digit : Nat → Char}

/-- Reading goes on where the digits in front have led to. -/
theorem read?_append (front back : List Char) (sofar : Nat) :
    read? sofar (front ++ back) = (read? sofar front).bind (read? · back) := by
  induction front generalizing sofar with
  | nil => rfl
  | cons c front ih =>
      rw [List.cons_append, read?, read?]
      cases digit? c with
      | none => rfl
      | some d => exact ih _

/-- One digit is added behind those already read. -/
theorem read?_singleton (c : Char) (sofar : Nat) :
    read? sofar [c] = (digit? c).map (16 * sofar + ·) := by
  rw [read?]
  cases digit? c with
  | none => rfl
  | some d => rfl

/-- Only digits are read. -/
theorem exists_digit?_of_read? {text : List Char} {sofar n : Nat}
    (h : read? sofar text = some n) : ∀ c ∈ text, ∃ d, digit? c = some d := by
  induction text generalizing sofar with
  | nil => exact fun c hc => absurd hc List.not_mem_nil
  | cons c text ih =>
      rw [read?] at h
      cases hc : digit? c with
      | none =>
          rw [hc] at h
          cases h
      | some d =>
          rw [hc] at h
          intro c' hc'
          rcases List.mem_cons.1 hc' with rfl | hc'
          · exact ⟨d, hc⟩
          · exact ih h c' hc'

/-- The digits of a fixed width are the width in number. -/
theorem length_fixed (width n : Nat) : (fixed digit width n).length = width := by
  induction width generalizing n with
  | zero => rfl
  | succ width ih => rw [fixed, List.length_append, ih, List.length_singleton]

/-- They are digits of values below sixteen. -/
theorem exists_of_mem_fixed {width n : Nat} {c : Char} (h : c ∈ fixed digit width n) :
    ∃ d < 16, c = digit d := by
  induction width generalizing n with
  | zero => cases h
  | succ width ih =>
      rcases List.mem_append.1 h with h | h
      · exact ih h
      · exact ⟨n % 16, Nat.mod_lt n (by decide), List.mem_singleton.1 h⟩

/-- A number that fits the width is read back from its digits, behind
those already read. -/
theorem read?_fixed (hdigit : ∀ d < 16, digit? (digit d) = some d) {width n : Nat}
    (h : n < Nat.pow 16 width) (sofar : Nat) :
    read? sofar (fixed digit width n) = some (Nat.pow 16 width * sofar + n) := by
  induction width generalizing n with
  | zero =>
      have hn : n = 0 := Nat.lt_one_iff.1 h
      simp [fixed, read?, hn]
  | succ width ih =>
      have hpow : Nat.pow 16 (width + 1) = 16 * Nat.pow 16 width := Nat.mul_comm _ _
      rw [hpow] at h
      have hfront : n / 16 < Nat.pow 16 width := Nat.div_lt_of_lt_mul h
      have hsplit := Nat.div_add_mod n 16
      rw [fixed, read?_append, ih hfront, Option.bind_some, read?_singleton,
        hdigit (n % 16) (Nat.mod_lt n (by decide)), Option.map_some, hpow,
        Nat.mul_assoc]
      exact congrArg some (by omega)

/-- Digits of either case are ASCII digits or letters. -/
theorem toNat_of_digit? {c : Char} {d : Nat} (h : digit? c = some d) :
    48 ≤ c.toNat ∧ c.toNat ≤ 57 ∨ 65 ≤ c.toNat ∧ c.toNat ≤ 70
      ∨ 97 ≤ c.toNat ∧ c.toNat ≤ 102 := by
  unfold digit? at h
  split at h
  next hrange => exact .inl hrange
  next =>
    split at h
    next hrange => exact .inr (.inr hrange)
    next =>
      split at h
      next hrange => exact .inr (.inl hrange)
      next => cases h

/-- The lower-case digits are digits of their values. -/
theorem digit?_lower : ∀ d < 16, digit? (lower d) = some d := by
  decide

/-- So are the upper-case digits. -/
theorem digit?_upper : ∀ d < 16, digit? (upper d) = some d := by
  decide

/-- The digits of a hexadecimal number are those of values below sixteen. -/
theorem exists_of_mem_digits {n : Nat} {c : Char} (h : c ∈ digits n) :
    ∃ d < 16, c = Nat.digitChar d := by
  unfold digits at h
  induction n using Nat.strongRecOn with
  | ind n ih =>
    by_cases hn : n < 16
    · rw [Nat.toDigits_of_lt_base hn, List.mem_singleton] at h
      exact ⟨n, hn, h⟩
    · have hbase : 16 ≤ n := Nat.le_of_not_lt hn
      rw [Nat.toDigits_of_base_le (by decide) hbase] at h
      rcases List.mem_append.1 h with h | h
      · exact ih (n / 16) (Nat.div_lt_self (by omega) (by decide)) h
      · exact ⟨n % 16, Nat.mod_lt n (by decide), List.mem_singleton.1 h⟩

end ConsoleLinks.Text.Hex
