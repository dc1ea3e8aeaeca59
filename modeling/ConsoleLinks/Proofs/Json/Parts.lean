/-
Strings and numbers as JSON: however they are spelled, they are read as what
they stand for, with anything behind them.

# Strings

Each character stands by itself, as itself or as an escape (`Stands`): a
letter behind a backslash, four hexadecimal digits, or two such numbers for
a character beyond the first plane. Whatever it stands as takes the reader
from between two characters to behind that character (`Stands.string`). The
law of a string is the induction over its characters (`string_characters`).
The writer uses some of these ways (`characters_escape`).

# Numbers

A number is read part by part (`Numeral`): the sign, digits without a zero in
front, perhaps a point with digits behind it, perhaps an exponent. The reader
takes digits as long as there are some; so what stands behind a number must
not go on with it (`EndsNumber`). A number may be too large to be read, and
then reading ends with a fault; so what is said of a number, and of all that
can hold one, is what is found if anything is (`Finds`).

Consumed by the values (`Spelling.lean`).
-/
import ConsoleLinks.Json.Reader
import ConsoleLinks.Proofs.Text.Hex
import ConsoleLinks.Proofs.Text.Runs

namespace ConsoleLinks.Json

open Text

-- ============================================================== strings

/-- What the number of an escape comes to when its digits have been read. -/
def coded (high : Option Nat) (n : Nat) (read rest : List Char) : Read (List Char) :=
  match high with
  | some h =>
    if 0xdc00 ≤ n ∧ n < 0xe000 then string .none (joinPair h n :: read) rest
    else .error .malformed
  | none =>
    if 0xd800 ≤ n ∧ n < 0xdc00 then string (.pair n) read rest
    else if 0xdc00 ≤ n ∧ n < 0xe000 then .error .malformed
    else string .none (Char.ofNat n :: read) rest

/-- The digits of an escape are read as their number. -/
theorem string_digits {left value n : Nat} {high : Option Nat} {ds : List Char}
    (hlength : ds.length = left + 1) (hread : Hex.read? value ds = some n)
    (read rest : List Char) :
    string (.code (left + 1) value high) read (ds ++ rest) = coded high n read rest := by
  induction ds generalizing left value with
  | nil => cases hlength
  | cons c ds ih =>
      rw [Hex.read?] at hread
      cases hc : Hex.digit? c with
      | none =>
          rw [hc] at hread
          cases hread
      | some d =>
          rw [hc] at hread
          dsimp only at hread
          rw [List.cons_append, string]
          simp only [hc]
          cases left with
          | zero =>
              have hnil : ds = [] := List.eq_nil_of_length_eq_zero (by simpa using hlength)
              rw [hnil, Hex.read?] at hread
              injection hread with hn
              rw [if_neg (by omega), hnil, hn, List.nil_append]
              rfl
          | succ left =>
              rw [if_pos (by omega)]
              exact ih (by simpa using hlength) hread

/-- The characters that have a letter of their own behind the backslash. -/
def letters : List (Char × Char) :=
  [('"', '"'), ('\\', '\\'), ('/', '/'), ('\n', 'n'), ('\r', 'r'), ('\t', 't'), ('\x08', 'b'),
   ('\x0c', 'f')]

/-- The ways in which a character can stand inside a string. -/
inductive Stands (c : Char) : List Char → Prop where
  /-- As a letter behind a backslash. -/
  | letter {l : Char} (h : (c, l) ∈ letters) : Stands c ['\\', l]
  /-- As its number, in four digits of either case. -/
  | code {ds : List Char} (hlength : ds.length = 4)
      (hread : Hex.read? 0 ds = some c.toNat) : Stands c ('\\' :: 'u' :: ds)
  /-- As the numbers of a surrogate pair. -/
  | pair {hs ls : List Char} {high low : Nat}
      (hhigh : hs.length = 4 ∧ Hex.read? 0 hs = some high ∧ 0xd800 ≤ high ∧ high < 0xdc00)
      (hlow : ls.length = 4 ∧ Hex.read? 0 ls = some low ∧ 0xdc00 ≤ low ∧ low < 0xe000)
      (h : (high - 0xd800) * 0x400 + (low - 0xdc00) + 0x10000 = c.toNat) :
      Stands c ('\\' :: 'u' :: hs ++ '\\' :: 'u' :: ls)
  /-- As itself, which control characters, the quote and the backslash
  cannot. -/
  | itself (hquote : c ≠ '"') (hslash : c ≠ '\\') (h : 0x20 ≤ c.toNat) : Stands c [c]

/-- Every character is written in one of them. -/
theorem stands_escapeChar (c : Char) : Stands c (escapeChar c) := by
  unfold escapeChar
  split
  next h => exact .letter (by simp [h, letters])
  split
  next h => exact .letter (by simp [h, letters])
  split
  next h => exact .letter (by simp [h, letters])
  split
  next h => exact .letter (by simp [h, letters])
  split
  next h => exact .letter (by simp [h, letters])
  split
  next h => exact .letter (by simp [h, letters])
  split
  next h => exact .letter (by simp [h, letters])
  split
  next h =>
    apply Stands.code (Hex.length_fixed 4 c.toNat)
    have hwidth : c.toNat < Nat.pow 16 4 := Nat.lt_trans h (by decide)
    have hread := Hex.read?_fixed Hex.digit?_lower hwidth 0
    rwa [Nat.mul_zero, Nat.zero_add] at hread
  next hquote hslash _ _ _ _ _ h => exact .itself hquote hslash (Nat.not_lt.1 h)

/-- The number of a character is no surrogate's. -/
theorem not_surrogate (c : Char) : ¬ (0xd800 ≤ c.toNat ∧ c.toNat < 0xe000) := by
  intro h
  rcases c.valid with hlow | hhigh
  · have hc : c.toNat < 0xd800 := hlow
    omega
  · have hc : 0xdfff < c.toNat := hhigh.1
    omega

/-- However a character stands inside a string, it is read as itself. -/
theorem Stands.string {c : Char} {text : List Char} (h : Stands c text)
    (read rest : List Char) :
    Json.string .none read (text ++ rest) = Json.string .none (c :: read) rest := by
  cases h with
  | letter hletter =>
      simp only [letters, List.mem_cons, Prod.mk.injEq, List.not_mem_nil, or_false] at hletter
      rcases hletter with ⟨rfl, rfl⟩ | ⟨rfl, rfl⟩ | ⟨rfl, rfl⟩ | ⟨rfl, rfl⟩ | ⟨rfl, rfl⟩
        | ⟨rfl, rfl⟩ | ⟨rfl, rfl⟩ | ⟨rfl, rfl⟩ <;> rfl
  | @code ds hlength hread =>
      have hplain := not_surrogate c
      show Json.string (.code 4 0 none) read (ds ++ rest) = _
      rw [string_digits hlength hread, coded, if_neg (by omega), if_neg (by omega),
        Char.ofNat_toNat]
  | @pair hs ls high low hhigh hlow hchar =>
      obtain ⟨hlength, hread, hrange⟩ := hhigh
      obtain ⟨hlength', hread', hrange'⟩ := hlow
      rw [List.append_assoc]
      show Json.string (.code 4 0 none) read (hs ++ ('\\' :: 'u' :: (ls ++ rest))) = _
      rw [string_digits hlength hread, coded, if_pos hrange]
      show Json.string (.code 4 0 (some high)) read (ls ++ rest) = _
      rw [string_digits hlength' hread', coded, if_pos hrange', joinPair, hchar,
        Char.ofNat_toNat]
  | itself hquote hslash hplain =>
      show Json.string .none read (c :: rest) = _
      rw [Json.string]
      simp only [hquote, hslash, Nat.not_lt.2 hplain, if_false]

/-- Characters in a row, each standing in one of its ways. -/
inductive Characters : List Char → List Char → Prop
  | nil : Characters [] []
  | cons {c : Char} {word text words : List Char} :
      Stands c word → Characters text words → Characters (c :: text) (word ++ words)

/-- A string is read from behind its opening quote, however it is spelled. -/
theorem string_characters {text words : List Char} (h : Characters text words)
    (read rest : List Char) :
    string .none read (words ++ '"' :: rest) = .ok (read.reverse ++ text, rest) := by
  induction h generalizing read with
  | nil =>
      rw [List.append_nil]
      rfl
  | cons hc _ ih =>
      rw [List.append_assoc, hc.string, ih, List.reverse_cons, List.append_assoc]
      rfl

/-- The writer spells each character in its own way. -/
theorem characters_escape (text : List Char) : Characters text (text.flatMap escapeChar) := by
  induction text with
  | nil => exact .nil
  | cons c text ih => exact .cons (stands_escapeChar c) ih

/-- A text of known characters holds no control character. -/
theorem not_control_of_all {text : List Char} (h : text.all (0x20 ≤ ·.toNat) = true) :
    ∀ c ∈ text, 0x20 ≤ c.toNat :=
  fun c hc => of_decide_eq_true (List.all_eq_true.1 h c hc)

/-- Hexadecimal digits are no control characters. -/
theorem not_control_of_read? {ds : List Char} {n : Nat} (h : Hex.read? 0 ds = some n) :
    ∀ c ∈ ds, 0x20 ≤ c.toNat := by
  intro c hc
  obtain ⟨d, hd⟩ := Hex.exists_digit?_of_read? h c hc
  have hrange := Hex.toNat_of_digit? hd
  omega

/-- No character of an escape is a control character. -/
theorem Stands.not_control {c c' : Char} {text : List Char} (h : Stands c text)
    (hmem : c' ∈ text) : 0x20 ≤ c'.toNat := by
  have hopening : ∀ mark ∈ ['\\', 'u'], 0x20 ≤ mark.toNat := not_control_of_all (by decide)
  have hcode : ∀ {ds : List Char} {n : Nat}, Hex.read? 0 ds = some n →
      c' ∈ '\\' :: 'u' :: ds → 0x20 ≤ c'.toNat := by
    intro ds n hread hc
    rcases List.mem_append.1 (show c' ∈ ['\\', 'u'] ++ ds from hc) with hc | hc
    · exact hopening c' hc
    · exact not_control_of_read? hread c' hc
  cases h with
  | letter hletter =>
      have hletters : (letters.all fun p => decide (0x20 ≤ p.2.toNat)) = true := by decide
      rcases List.mem_cons.1 hmem with rfl | hmem
      · exact hopening '\\' (by decide)
      · rw [List.mem_singleton.1 hmem]
        exact of_decide_eq_true (List.all_eq_true.1 hletters _ hletter)
  | code _ hread => exact hcode hread hmem
  | pair hhigh hlow _ =>
      rcases List.mem_append.1 hmem with hmem | hmem
      · exact hcode hhigh.2.1 hmem
      · exact hcode hlow.2.1 hmem
  | itself _ _ hplain =>
      rw [List.mem_singleton.1 hmem]
      exact hplain

/-- Nor is one of a written string. -/
theorem not_control_of_mem_quote {s : String} {c : Char} (h : c ∈ quote s) :
    0x20 ≤ c.toNat := by
  have hmark : c = '"' → 0x20 ≤ c.toNat := by
    rintro rfl
    decide
  unfold quote at h
  rcases List.mem_append.1 h with h | h
  · rcases List.mem_append.1 h with h | h
    · exact hmark (List.mem_singleton.1 h)
    · obtain ⟨c', -, hc⟩ := List.mem_flatMap.1 h
      exact (stands_escapeChar c').not_control hc
  · exact hmark (List.mem_singleton.1 h)

-- ======================================================= what is found

/-- A step finds something and leaves the rest behind it; unless that is
sure, it may end with a fault instead. -/
def Finds {ε α : Type} (sure : Prop) (step : Except ε (α × List Char)) (found : α)
    (rest : List Char) : Prop :=
  step = .ok (found, rest) ∨ ¬ sure ∧ ∃ fault, step = .error fault

namespace Finds

variable {ε α : Type} {sure sure' : Prop} {step : Except ε (α × List Char)} {found : α}
  {rest : List Char}

theorem of_ok : Finds True (.ok (found, rest) : Except ε (α × List Char)) found rest := .inl rfl

/-- What is sure is found. -/
theorem eq_ok (h : Finds sure step found rest) (hsure : sure) : step = .ok (found, rest) := by
  rcases h with h | ⟨hnot, -⟩
  · exact h
  · exact absurd hsure hnot

/-- Less may be said to be sure. -/
theorem mono (h : Finds sure step found rest) (hsure : sure' → sure) :
    Finds sure' step found rest := by
  rcases h with h | ⟨hnot, hfault⟩
  · exact .inl h
  · exact .inr ⟨fun h => hnot (hsure h), hfault⟩

/-- A step that goes on behind another finds what it finds there, if both are
sure to; a fault of the other ends it. -/
theorem andThen {ε' β : Type} {whole after : Except ε' (β × List Char)} {found' : β}
    {rest' : List Char} {sureAll : Prop} (h : Finds sure step found rest)
    (hafter : Finds sure' after found' rest')
    (hok : step = .ok (found, rest) → whole = after)
    (hfault : ∀ fault, step = .error fault → ∃ fault', whole = .error fault')
    (hsure : sureAll → sure ∧ sure') : Finds sureAll whole found' rest' := by
  rcases h with h | ⟨hnot, fault, h⟩
  · rw [hok h]
    exact hafter.mono fun h => (hsure h).2
  · exact .inr ⟨fun h => hnot (hsure h).1, hfault fault h⟩

end Finds

-- ============================================================== numbers

/-- What can follow a number without belonging to it. -/
def EndsNumber (rest : List Char) : Prop :=
  ∀ c ∈ rest.head?, c.isDigit = false ∧ c ≠ '.' ∧ c ≠ 'e' ∧ c ≠ 'E'

/-- A mark between values ends a number, and so does the end of the
text. -/
theorem endsNumber_nil : EndsNumber [] := fun _ h => nomatch h

theorem endsNumber_cons {c : Char}
    (h : c.isDigit = false ∧ c ≠ '.' ∧ c ≠ 'e' ∧ c ≠ 'E') (rest : List Char) :
    EndsNumber (c :: rest) := by
  rintro c' ⟨⟩
  exact h

/-- Digits that something else follows are taken as a run. -/
theorem digitRun_append {ds rest : List Char} (hne : ds ≠ [])
    (hds : ∀ c ∈ ds, c.isDigit = true) (hrest : ∀ c ∈ rest.head?, c.isDigit = false) :
    digitRun (ds ++ rest) = .ok (ds, rest) := by
  obtain ⟨c, cs, rfl⟩ := List.exists_cons_of_ne_nil hne
  unfold digitRun
  rw [takeWhile_append_of_boundary hds hrest, dropWhile_append_of_boundary hds hrest]
  dsimp only [List.cons_append]
  rw [if_pos (hds c (List.mem_cons_self ..))]

/-- The whole part of a number: digits, of which the first is no zero unless
it is the only one. -/
structure IsWhole (whole : List Char) : Prop where
  ne_nil : whole ≠ []
  digits : ∀ c ∈ whole, c.isDigit = true
  noZero : whole.head? = some '0' → whole = ['0']

/-- It is read as far as it goes. -/
theorem wholePart_append {whole rest : List Char} (h : IsWhole whole)
    (hrest : ∀ c ∈ rest.head?, c.isDigit = false) :
    wholePart (whole ++ rest) = .ok (whole, rest) := by
  by_cases hzero : whole.head? = some '0'
  · rw [h.noZero hzero]
    show wholePart ('0' :: rest) = .ok (['0'], rest)
    rw [wholePart]
    cases rest with
    | nil => rfl
    | cons c rest =>
        have hc : c.isDigit = false := hrest c rfl
        simp [hc]
  · rw [← digitRun_append h.ne_nil h.digits hrest]
    obtain ⟨c, cs, rfl⟩ := List.exists_cons_of_ne_nil h.ne_nil
    rw [List.cons_append, wholePart]
    intro rest' heq
    exact hzero (congrArg some (List.cons.inj heq).1)

/-- What an exponent opens with, and whether it is negative. -/
def exponentOpenings : List (List Char × Bool) :=
  [(['e'], false), (['E'], false), (['e', '+'], false), (['E', '+'], false),
   (['e', '-'], true), (['E', '-'], true)]

/-- The parts of a number as it is spelled. -/
structure Numeral where
  negative : Bool
  whole : List Char
  /-- The digits behind the point; without any there is no point. -/
  fraction : List Char
  /-- The opening of the exponent, whether it is negative, and its digits. -/
  exponent : Option (List Char × Bool × List Char)

namespace Numeral

/-- A number has the parts it should have. -/
structure WellFormed (p : Numeral) : Prop where
  whole : IsWhole p.whole
  fraction : ∀ c ∈ p.fraction, c.isDigit = true
  exponent : ∀ opening negative ds, p.exponent = some (opening, negative, ds) →
    (opening, negative) ∈ exponentOpenings ∧ ds ≠ [] ∧ ∀ c ∈ ds, c.isDigit = true

/-- The fraction with its point. -/
def fractionText (p : Numeral) : List Char :=
  if p.fraction = [] then [] else '.' :: p.fraction

def exponentText (p : Numeral) : List Char :=
  match p.exponent with
  | none => []
  | some (opening, _, ds) => opening ++ ds

/-- The text of a number. -/
def text (p : Numeral) : List Char :=
  (if p.negative then ['-'] else []) ++ (p.whole ++ (p.fractionText ++ p.exponentText))

/-- A number is a natural one within 64 bits. -/
def IsNatural (p : Numeral) : Prop :=
  p.negative = false ∧ p.fraction = [] ∧ p.exponent = none
    ∧ Nat.ofDigitChars 10 p.whole 0 < UInt64.size

instance (p : Numeral) : Decidable p.IsNatural :=
  inferInstanceAs (Decidable (_ ∧ _ ∧ _ ∧ _))

/-- What a number stands for. -/
def value (p : Numeral) : Json :=
  if p.IsNatural then .natural (Nat.ofDigitChars 10 p.whole 0)
  else .number (String.ofList p.text)

variable {p : Numeral} {rest : List Char}

/-- Only a natural number stands for one. -/
theorem isNatural_of_value {n : Nat} (h : p.value = .natural n) : p.IsNatural := by
  by_cases hnatural : p.IsNatural
  · exact hnatural
  · rw [value, if_neg hnatural] at h
    cases h

/-- A number begins with its sign or a digit. -/
theorem exists_text_eq_cons (hp : p.WellFormed) :
    ∃ c cs, p.text = c :: cs ∧ (c = '-' ∨ c.isDigit = true) := by
  obtain ⟨w, ws, hw⟩ := List.exists_cons_of_ne_nil hp.whole.ne_nil
  have hdigit : w.isDigit = true := hp.whole.digits w (by rw [hw]; exact List.mem_cons_self ..)
  unfold text
  cases p.negative with
  | true => exact ⟨_, _, rfl, .inl rfl⟩
  | false =>
      rw [hw]
      exact ⟨_, _, rfl, .inr hdigit⟩

/-- What follows the fraction does not go on with it. -/
theorem exponent_boundary (hp : p.WellFormed) (h : EndsNumber rest) :
    ∀ c ∈ (p.exponentText ++ rest).head?, c.isDigit = false ∧ c ≠ '.' := by
  unfold exponentText
  cases hexponent : p.exponent with
  | none => exact fun c hc => ⟨(h c hc).1, (h c hc).2.1⟩
  | some e =>
      obtain ⟨opening, negative, ds⟩ := e
      obtain ⟨hopening, -⟩ := hp.exponent opening negative ds hexponent
      have hall : ∀ o ∈ exponentOpenings, ∃ m ms, o.1 = m :: ms
          ∧ m.isDigit = false ∧ m ≠ '.' := by
        intro o ho
        simp only [exponentOpenings, List.mem_cons, List.not_mem_nil, or_false] at ho
        rcases ho with rfl | rfl | rfl | rfl | rfl | rfl
        all_goals exact ⟨_, _, rfl, by decide⟩
      obtain ⟨m, ms, hm, hmark⟩ := hall _ hopening
      dsimp only at hm ⊢
      rw [hm]
      intro c hc
      injection hc with hc
      rw [← hc]
      exact hmark

theorem fraction_boundary (hp : p.WellFormed) (h : EndsNumber rest) :
    ∀ c ∈ (p.fractionText ++ (p.exponentText ++ rest)).head?, c.isDigit = false := by
  unfold fractionText
  by_cases hfraction : p.fraction = []
  · rw [if_pos hfraction]
    exact fun c hc => (exponent_boundary hp h c hc).1
  · rw [if_neg hfraction]
    intro c hc
    injection hc with hc
    rw [← hc]
    decide

/-- The fraction is read as far as it goes. -/
theorem fractionPart_text (hp : p.WellFormed) (h : EndsNumber rest) :
    fractionPart (p.fractionText ++ (p.exponentText ++ rest))
      = .ok (p.fraction, p.exponentText ++ rest) := by
  have hboundary := exponent_boundary hp h
  unfold fractionText
  by_cases hfraction : p.fraction = []
  · rw [if_pos hfraction, hfraction, List.nil_append]
    unfold fractionPart
    split
    next hpoint =>
      rw [hpoint] at hboundary
      exact absurd rfl (hboundary '.' rfl).2
    next => rfl
  · rw [if_neg hfraction]
    exact digitRun_append hfraction hp.fraction fun c hc => (hboundary c hc).1

/-- So is the exponent. -/
theorem exponentPart_text (hp : p.WellFormed) (h : EndsNumber rest) :
    exponentPart (p.exponentText ++ rest) = .ok (p.exponent.map (·.2), rest) := by
  unfold exponentText
  cases hexponent : p.exponent with
  | none =>
      show exponentPart rest = .ok (none, rest)
      unfold exponentPart
      split
      next => exact absurd rfl (h 'e' rfl).2.2.1
      next => exact absurd rfl (h 'E' rfl).2.2.2
      next => rfl
  | some e =>
      obtain ⟨opening, negative, ds⟩ := e
      obtain ⟨hopening, hne, hds⟩ := hp.exponent opening negative ds hexponent
      have hrun := digitRun_append hne hds fun c hc => (h c hc).1
      obtain ⟨d, ds, rfl⟩ := List.exists_cons_of_ne_nil hne
      have hd := hds d (List.mem_cons_self ..)
      have hplus : d ≠ '+' := by
        intro heq
        rw [heq] at hd
        exact absurd hd (by decide)
      have hminus : d ≠ '-' := by
        intro heq
        rw [heq] at hd
        exact absurd hd (by decide)
      dsimp only [Option.map_some]
      simp only [exponentOpenings, List.mem_cons, Prod.mk.injEq, List.not_mem_nil,
        or_false] at hopening
      rcases hopening with ⟨rfl, rfl⟩ | ⟨rfl, rfl⟩ | ⟨rfl, rfl⟩ | ⟨rfl, rfl⟩ | ⟨rfl, rfl⟩
        | ⟨rfl, rfl⟩
      all_goals
        rw [List.cons_append] at hrun
        simp [exponentPart, hrun, hplus, hminus]

/-- The parts of a number come to its value; only one that is not natural
can be too large. -/
theorem ofParts_value (p : Numeral) :
    ofParts p.negative p.whole p.fraction (p.exponent.map (·.2)) p.text = .ok p.value
      ∨ ¬ p.IsNatural
        ∧ ofParts p.negative p.whole p.fraction (p.exponent.map (·.2)) p.text
          = .error .malformed := by
  have hiff : (!p.negative && p.fraction.isEmpty && (p.exponent.map (·.2)).isNone
      && decide (Nat.ofDigitChars 10 p.whole 0 < UInt64.size)) = true ↔ p.IsNatural := by
    simp [IsNatural, and_assoc]
  unfold ofParts value
  by_cases hnatural : p.IsNatural
  · rw [if_pos (hiff.2 hnatural), if_pos hnatural]
    exact .inl rfl
  · rw [if_neg (fun h => hnatural (hiff.1 h)), if_neg hnatural]
    have hlimit : ∀ (large : Bool) (v : Json),
        (if large then .error Fault.malformed else .ok v) = Except.ok v
          ∨ ¬ p.IsNatural
            ∧ (if large then .error Fault.malformed else .ok v) = Except.error .malformed := by
      intro large v
      cases large with
      | true => exact .inr ⟨hnatural, rfl⟩
      | false => exact .inl rfl
    exact hlimit _ _

/-- The sign is taken off where there is one. -/
theorem sign_text (hp : p.WellFormed) {negative : Bool} {behind : List Char}
    (h : (match p.text ++ rest with
      | '-' :: r => (true, r)
      | r => (false, r)) = (negative, behind)) :
    negative = p.negative
      ∧ behind = p.whole ++ (p.fractionText ++ (p.exponentText ++ rest)) := by
  cases hnegative : p.negative with
  | true =>
      have htext : p.text ++ rest
          = '-' :: (p.whole ++ (p.fractionText ++ (p.exponentText ++ rest))) := by
        simp [text, hnegative]
      rw [htext] at h
      injection h with hsign hbehind
      exact ⟨hsign.symm, hbehind.symm⟩
  | false =>
      have htext : p.text ++ rest = p.whole ++ (p.fractionText ++ (p.exponentText ++ rest)) := by
        simp [text, hnegative]
      rw [htext] at h
      split at h
      next r heq =>
        -- a digit is no sign
        obtain ⟨w, ws, hw⟩ := List.exists_cons_of_ne_nil hp.whole.ne_nil
        have hdigit : w.isDigit = true :=
          hp.whole.digits w (by rw [hw]; exact List.mem_cons_self ..)
        rw [hw] at heq
        rw [(List.cons.inj heq).1] at hdigit
        exact absurd hdigit (by decide)
      next =>
        injection h with hsign hbehind
        exact ⟨hsign.symm, hbehind.symm⟩

/-- A number is read as what it stands for, if it is not too large. -/
theorem numeral_text (hp : p.WellFormed) (h : EndsNumber rest) :
    Finds p.IsNatural (numeral (p.text ++ rest)) p.value rest := by
  have hliteral : (p.text ++ rest).take ((p.text ++ rest).length - rest.length) = p.text := by
    rw [List.length_append, Nat.add_sub_cancel, List.take_left]
  unfold numeral
  split
  next negative behind hsign =>
    obtain ⟨rfl, rfl⟩ := sign_text hp hsign
    rw [wholePart_append hp.whole (fraction_boundary hp h)]
    dsimp only
    rw [fractionPart_text hp h]
    dsimp only
    rw [exponentPart_text hp h]
    dsimp only
    rw [hliteral]
    rcases p.ofParts_value with hvalue | ⟨hnatural, hfault⟩
    · rw [hvalue]
      exact .inl rfl
    · rw [hfault]
      exact .inr ⟨hnatural, _, rfl⟩

end Numeral

-- ====================================================== natural numbers

/-- Only zero is written with a zero in front. -/
theorem head?_toDigits_of_pos {n : Nat} (h : 0 < n) :
    (Nat.toDigits 10 n).head? ≠ some '0' := by
  induction n using Nat.strongRecOn with
  | ind n ih =>
    by_cases hn : n < 10
    · rw [Nat.toDigits_of_lt_base hn]
      intro hzero
      injection hzero with hzero
      have hdigits : ∀ m < 10, Nat.digitChar m = '0' → m = 0 := by decide
      exact Nat.ne_of_gt h (hdigits n hn hzero)
    · have hbase : 10 ≤ n := Nat.le_of_not_lt hn
      have hfront := ih (n / 10) (Nat.div_lt_self h (by decide))
        (Nat.div_pos hbase (by decide))
      obtain ⟨c, cs, hcs⟩ := List.exists_cons_of_ne_nil
        (Nat.toDigits_ne_nil (n := n / 10) (b := 10))
      rw [Nat.toDigits_of_base_le (by decide) hbase, hcs]
      rwa [hcs] at hfront

theorem isDigit_of_mem_toDigits {n : Nat} : ∀ c ∈ Nat.toDigits 10 n, c.isDigit = true :=
  fun _ h => Decimal.isDigit_of_mem_digits (n := n) h

/-- A natural number is written as a whole part. -/
theorem isWhole_toDigits (n : Nat) : IsWhole (Nat.toDigits 10 n) where
  ne_nil := Nat.toDigits_ne_nil
  digits := isDigit_of_mem_toDigits
  noZero h := by
    by_cases hn : n = 0
    · rw [hn]
      rfl
    · exact absurd h (head?_toDigits_of_pos (Nat.pos_of_ne_zero hn))

/-- The parts of a natural number. -/
def Numeral.ofNat (n : Nat) : Numeral := ⟨false, Nat.toDigits 10 n, [], none⟩

namespace Numeral

theorem wellFormed_ofNat (n : Nat) : (ofNat n).WellFormed where
  whole := isWhole_toDigits n
  fraction _ h := nomatch h
  exponent _ _ _ h := nomatch h

theorem text_ofNat (n : Nat) : (ofNat n).text = Nat.toDigits 10 n := by
  simp [ofNat, text, fractionText, exponentText]

/-- They stand for the number when 64 bits hold it. -/
theorem value_ofNat {n : Nat} (h : n < UInt64.size) : (ofNat n).value = .natural n := by
  have hn : Nat.ofDigitChars 10 (ofNat n).whole 0 = n :=
    Nat.ofDigitChars_toDigits (by decide) (by decide)
  have hnatural : (ofNat n).IsNatural := ⟨rfl, rfl, rfl, hn.symm ▸ h⟩
  rw [value, if_pos hnatural, hn]

end Numeral

end ConsoleLinks.Json
