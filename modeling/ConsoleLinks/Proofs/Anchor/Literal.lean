/-
Escaped text, read back as whoever follows a link reads it: a literal is
the text up to the first double quote that no backslash takes, with each
escape standing for one character (`readLiteral?`).

# Two properties of the escaping

- The literal ends where the argument was closed, and is the text that was
  escaped (`readLiteral?_escape`): whatever the text holds, it neither
  closes its argument early nor swallows the closing quote.
- No character of escaped text has a meaning in the markup around it
  (`isHarmless_of_mem_escape`): no single quote, which would close the
  attribute, no ampersand, no control character.

Both are shown for one character and carried over a text by induction.
-/
import ConsoleLinks.Anchor.Argument
import ConsoleLinks.Proofs.Text.Hex
import ConsoleLinks.Proofs.Text.Classes

namespace ConsoleLinks.Anchor

open Text

-- ========================================================= the reader

/-- How far an escape has been read. -/
inductive Escape where
  /-- No backslash is open. -/
  | none
  /-- The character behind a backslash is next. -/
  | begun
  /-- So many hexadecimal digits are missing, behind those of `value`. -/
  | code (left value : Nat)

/-- The character that a single letter or mark stands for behind a
backslash. -/
def escaped? : Char → Option Char
  | '\\' => some '\\'
  | '"' => some '"'
  | 'n' => some '\n'
  | 'r' => some '\r'
  | 't' => some '\t'
  | _ => none

/-- There are no other such marks. -/
theorem mem_marks_of_escaped? {m c : Char} (h : escaped? m = some c) :
    m ∈ ['\\', '"', 'n', 'r', 't'] := by
  unfold escaped? at h
  split at h
  next => decide
  next => decide
  next => decide
  next => decide
  next => decide
  next => cases h

/-- Puts a character in front of a text that has been read. -/
def consRead (c : Char) (read : List Char × List Char) : List Char × List Char :=
  (c :: read.1, read.2)

/-- Reads a literal from behind its opening quote: its text, and what
follows the closing quote. -/
def readLiteral? (escape : Escape) : List Char → Option (List Char × List Char)
  | [] => none
  | c :: rest =>
    match escape with
    | .none =>
      if c = '"' then some ([], rest)
      else if c = '\\' then readLiteral? .begun rest
      else (readLiteral? .none rest).map (consRead c)
    | .begun =>
      if c = 'x' then readLiteral? (.code 2 0) rest
      else if c = 'u' then readLiteral? (.code 4 0) rest
      else
        match escaped? c with
        | some d => (readLiteral? .none rest).map (consRead d)
        | none => none
    | .code left value =>
      match Hex.digit? c with
      | none => none
      | some d =>
        let n := 16 * value + d
        if 1 < left then readLiteral? (.code (left - 1) n) rest
        else if n.isValidChar then
          (readLiteral? .none rest).map (consRead (Char.ofNat n))
        else none

-- ============================================== how a character stands

/-- A character without a meaning in a single-quoted attribute: neither
its quote nor an ampersand nor a control character. -/
def isHarmless (c : Char) : Bool := c ≠ '\'' && c ≠ '&' && !isControl c

/-- The ways in which a character can stand inside a literal. -/
inductive Stands (c : Char) : List Char → Prop
  | self : c ≠ '"' → c ≠ '\\' → isHarmless c = true → Stands c [c]
  | mark {m : Char} : escaped? m = some c → Stands c ['\\', m]
  | hex {digits : List Char} :
      digits.length = 2 → Hex.read? 0 digits = some c.toNat →
      Stands c ('\\' :: 'x' :: digits)
  | unicode {digits : List Char} :
      digits.length = 4 → Hex.read? 0 digits = some c.toNat →
      Stands c ('\\' :: 'u' :: digits)

/-- Escaping lets a character stand in one of these ways. -/
theorem stands_escapeChar (c : Char) : Stands c (escapeChar c) := by
  by_cases hbackslash : c = '\\'
  · subst hbackslash
    exact .mark rfl
  by_cases hquote : c = '"'
  · subst hquote
    exact .mark rfl
  by_cases hsingle : c = '\''
  · subst hsingle
    exact .hex rfl rfl
  by_cases hamp : c = '&'
  · subst hamp
    exact .hex rfl rfl
  by_cases hnewline : c = '\n'
  · subst hnewline
    exact .mark rfl
  by_cases hreturn : c = '\r'
  · subst hreturn
    exact .mark rfl
  by_cases htab : c = '\t'
  · subst htab
    exact .mark rfl
  unfold escapeChar
  rw [if_neg hbackslash, if_neg hquote, if_neg hsingle, if_neg hamp,
    if_neg hnewline, if_neg hreturn, if_neg htab]
  split
  next hcontrol =>
    have hlt : c.toNat < Nat.pow 16 4 := by
      simp only [isControl, Bool.or_eq_true, Bool.and_eq_true,
        decide_eq_true_eq] at hcontrol
      exact Nat.lt_trans (show c.toNat < 160 by omega) (by decide)
    have hread := Hex.read?_fixed Hex.digit?_lower hlt 0
    exact .unicode (Hex.length_fixed 4 c.toNat) (by simpa using hread)
  next hcontrol =>
    exact .self hquote hbackslash (by simp [isHarmless, hsingle, hamp, hcontrol])

-- ===================================================== reading it back

/-- A run of hexadecimal digits, as many as are missing, makes one
character. -/
theorem readLiteral?_code {digits : List Char} {n : Nat} (hn : n.isValidChar)
    (rest : List Char) {value : Nat} (hread : Hex.read? value digits = some n)
    (hne : digits ≠ []) :
    readLiteral? (.code digits.length value) (digits ++ rest)
      = (readLiteral? .none rest).map (consRead (Char.ofNat n)) := by
  induction digits generalizing value with
  | nil => exact absurd rfl hne
  | cons c digits ih =>
      rw [Hex.read?] at hread
      rw [List.cons_append, readLiteral?]
      cases hc : Hex.digit? c with
      | none =>
          rw [hc] at hread
          cases hread
      | some d =>
          rw [hc] at hread
          cases digits with
          | nil =>
              injection hread with hread
              simp [hread, hn]
          | cons c' digits =>
              have hmore := ih hread (List.cons_ne_nil c' digits)
              simpa using hmore

/-- A character is read back from each way it can stand. -/
theorem Stands.readLiteral? {c : Char} {shown : List Char} (h : Stands c shown)
    (rest : List Char) :
    readLiteral? .none (shown ++ rest)
      = (Anchor.readLiteral? .none rest).map (consRead c) := by
  cases h with
  | self hquote hbackslash _ =>
      rw [List.singleton_append, Anchor.readLiteral?]
      simp only [hquote, hbackslash, if_false]
  | @mark m hmark =>
      have hx : m ≠ 'x' := by
        rintro rfl
        cases hmark
      have hu : m ≠ 'u' := by
        rintro rfl
        cases hmark
      rw [List.cons_append, Anchor.readLiteral?, List.singleton_append]
      simp [Anchor.readLiteral?, hx, hu, hmark]
  | @hex digits hlen hread =>
      have hne : digits ≠ [] := List.ne_nil_of_length_pos (by omega)
      have hcode := readLiteral?_code c.valid rest hread hne
      rw [hlen] at hcode
      simpa [Anchor.readLiteral?] using hcode
  | @unicode digits hlen hread =>
      have hne : digits ≠ [] := List.ne_nil_of_length_pos (by omega)
      have hcode := readLiteral?_code c.valid rest hread hne
      rw [hlen] at hcode
      simpa [Anchor.readLiteral?] using hcode

/-- Escaped text in front of a quote is read back, and the reader stops at
that quote. -/
theorem readLiteral?_escape (text rest : List Char) :
    readLiteral? .none (escape text ++ '"' :: rest) = some (text, rest) := by
  induction text with
  | nil => rfl
  | cons c text ih =>
      rw [escape_cons, List.append_assoc, (stands_escapeChar c).readLiteral?, ih]
      rfl

/-- No two texts are escaped alike: each is what its escaped form is read
back as. -/
theorem escape_injective : Function.Injective escape := by
  intro s t h
  have hs := readLiteral?_escape s []
  have ht := readLiteral?_escape t []
  rw [h, ht] at hs
  injection hs with hs
  injection hs with hs _
  exact hs.symm

-- ======================================================= in the markup

/-- Printable ASCII other than the two marks is harmless. -/
theorem isHarmless_of_toNat {c : Char} (hlow : 32 ≤ c.toNat)
    (hhigh : c.toNat < 127) (hquote : c.toNat ≠ 39) (hamp : c.toNat ≠ 38) :
    isHarmless c = true := by
  have hsingle : c ≠ '\'' := by
    rintro rfl
    exact hquote rfl
  have hand : c ≠ '&' := by
    rintro rfl
    exact hamp rfl
  simp only [isHarmless, isControl, hsingle, hand, decide_true, Bool.true_and,
    Bool.not_eq_true', Bool.or_eq_false_iff, Bool.and_eq_false_iff,
    decide_eq_false_iff_not, ne_eq, not_false_eq_true]
  omega

/-- What an escape is written with is harmless. -/
theorem Stands.isHarmless {c : Char} {shown : List Char} (h : Stands c shown) :
    ∀ d ∈ shown, isHarmless d = true := by
  have hdigits : ∀ {digits : List Char} {n : Nat}, Hex.read? 0 digits = some n →
      ∀ d ∈ digits, Anchor.isHarmless d = true := by
    intro digits n hread d hd
    obtain ⟨k, hk⟩ := Hex.exists_digit?_of_read? hread d hd
    have hrange := Hex.toNat_of_digit? hk
    exact isHarmless_of_toNat (by omega) (by omega) (by omega) (by omega)
  cases h with
  | self _ _ hharmless => simpa using hharmless
  | @mark m hmark =>
      have hmarks : ∀ m ∈ ['\\', '"', 'n', 'r', 't'],
          Anchor.isHarmless m = true := List.all_eq_true.1 rfl
      simp only [List.forall_mem_cons]
      exact ⟨by decide, hmarks m (mem_marks_of_escaped? hmark),
        fun d hd => absurd hd List.not_mem_nil⟩
  | hex _ hread =>
      simp only [List.forall_mem_cons]
      exact ⟨by decide, by decide, hdigits hread⟩
  | unicode _ hread =>
      simp only [List.forall_mem_cons]
      exact ⟨by decide, by decide, hdigits hread⟩

/-- Escaped text has no meaning in the markup around it. -/
theorem isHarmless_of_mem_escape {text : List Char} :
    ∀ c ∈ escape text, isHarmless c = true := by
  intro c hc
  obtain ⟨d, -, hd⟩ := List.mem_flatMap.1 hc
  exact (stands_escapeChar d).isHarmless c hd

end ConsoleLinks.Anchor
