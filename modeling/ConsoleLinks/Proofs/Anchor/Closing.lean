/-
Which quote closes a literal, and that escaped text leaves the question no
room.

A backslash takes the character behind it, and that alone settles the
matter: a literal ends at the first double quote that is not taken
(`closing?`). What an escape stands for has no say in it, so the quote can
be found without reading the escapes.

# What a literal encloses

Text stands inside a literal when the search for the closing quote goes
over it, whatever follows (`Enclosed`). Such texts can be joined, and the
search cuts a text exactly where a quote follows one
(`closing?_eq_some_iff`).

# The reader

Whatever the reader of literals is given, it stops at that quote
(`enclosed_of_readLiteral?`). Its steps come to one inversion: it stops at
a quote, or takes one character and goes on in a state that has a
backslash open or not (`Escape.Takes`).

# Escaped text

Escaped text stands inside a literal as a whole (`enclosed_escape`). With
the law of the reader that fixes the moment at which the reader is done
(`isSome_readLiteral?_take_iff`), and `escape_delimits_itself` joins it to
what is read (`readLiteral?_escape`) and to what the markup around it sees
(`isHarmless_of_mem_escape`).
-/
import ConsoleLinks.Proofs.Anchor.Literal

namespace ConsoleLinks.Anchor

open Text

-- ============================================================== the cut

/-- Cuts a text at the quote that closes the literal at its front, by what
a backslash does and nothing else: it takes the character behind it. -/
def closing? : List Char → Option (List Char × List Char)
  | [] => none
  | c :: rest =>
    if c = '"' then some ([], rest)
    else if c = '\\' then
      match rest with
      | [] => none
      | d :: rest => (closing? rest).map fun cut => (c :: d :: cut.1, cut.2)
    else (closing? rest).map fun cut => (c :: cut.1, cut.2)

/-- Text inside a literal: the search for the closing quote goes over it. -/
def Enclosed (text : List Char) : Prop :=
  ∀ rest, closing? (text ++ rest) = (closing? rest).map fun cut => (text ++ cut.1, cut.2)

namespace Enclosed

theorem nil : Enclosed [] := by
  intro rest
  simp

theorem append {text more : List Char} (h : Enclosed text) (hmore : Enclosed more) :
    Enclosed (text ++ more) := by
  intro rest
  rw [List.append_assoc, h, hmore, Option.map_map]
  simp only [Function.comp_def, List.append_assoc]

/-- A character that is no mark of a literal. -/
theorem plain {c : Char} (hquote : c ≠ '"') (hbackslash : c ≠ '\\') : Enclosed [c] := by
  intro rest
  rw [List.singleton_append, closing?.eq_def]
  dsimp only
  rw [if_neg hquote, if_neg hbackslash]
  rfl

/-- A backslash with the character that it takes. -/
theorem taken (c : Char) : Enclosed ['\\', c] := by
  intro rest
  show closing? ('\\' :: c :: rest) = _
  rw [closing?.eq_def]
  rfl

/-- Text without marks of a literal. -/
theorem of_plain {text : List Char} (h : ∀ c ∈ text, c ≠ '"' ∧ c ≠ '\\') :
    Enclosed text := by
  induction text with
  | nil => exact nil
  | cons c text ih =>
      obtain ⟨hquote, hbackslash⟩ := h c (List.mem_cons_self ..)
      exact (plain hquote hbackslash).append (ih fun d hd => h d (List.mem_cons_of_mem c hd))

/-- A quote behind such text closes the literal. -/
theorem closing? {inside : List Char} (h : Enclosed inside) (rest : List Char) :
    closing? (inside ++ '"' :: rest) = some (inside, rest) := by
  have hquote : Anchor.closing? ('"' :: rest) = some ([], rest) := by
    rw [closing?.eq_def]
    rfl
  rw [h, hquote, Option.map_some, List.append_nil]

end Enclosed

/-- A text is cut exactly at a quote behind text that stands inside a
literal. -/
theorem closing?_eq_some_iff {text inside rest : List Char} :
    closing? text = some (inside, rest) ↔ text = inside ++ '"' :: rest ∧ Enclosed inside := by
  constructor
  · intro h
    fun_induction closing? text generalizing inside rest with
    | case1 => cases h
    | case2 rest' =>
        injection h with h
        injection h with hinside hrest
        rw [← hinside, hrest]
        exact ⟨rfl, .nil⟩
    | case3 => cases h
    | case4 d rest' _ ih =>
        obtain ⟨⟨inside', behind⟩, hcut, heq⟩ := Option.map_eq_some_iff.1 h
        injection heq with hinside hrest
        obtain ⟨htext, hinside'⟩ := ih hcut
        rw [← hinside, ← hrest, htext]
        exact ⟨rfl, (Enclosed.taken d).append hinside'⟩
    | case5 c rest' hquote hbackslash ih =>
        obtain ⟨⟨inside', behind⟩, hcut, heq⟩ := Option.map_eq_some_iff.1 h
        injection heq with hinside hrest
        obtain ⟨htext, hinside'⟩ := ih hcut
        rw [← hinside, ← hrest, htext]
        exact ⟨rfl, (Enclosed.plain hquote hbackslash).append hinside'⟩
  · intro ⟨htext, hinside⟩
    rw [htext]
    exact hinside.closing? rest

-- =========================================================== the reader

/-- A hexadecimal digit neither closes a literal nor begins an escape. -/
theorem ne_marks_of_digit? {c : Char} {d : Nat} (h : Hex.digit? c = some d) :
    c ≠ '"' ∧ c ≠ '\\' := by
  have hrange := Hex.toNat_of_digit? h
  constructor
  · intro hc
    have hcode : '"'.toNat = 34 := rfl
    rw [hc, hcode] at hrange
    omega
  · intro hc
    have hcode : '\\'.toNat = 92 := rfl
    rw [hc, hcode] at hrange
    omega

/-- The backslash that is still open. -/
def Escape.opened : Escape → List Char
  | .begun => ['\\']
  | .none | .code _ _ => []

/-- What one character does to a reader that goes on: it is passed over, or
it opens a backslash, or the open backslash takes it. -/
inductive Escape.Takes : Escape → Char → Escape → Prop
  | passed {escape next : Escape} {c : Char} :
      escape.opened = [] → next.opened = [] → c ≠ '"' → c ≠ '\\' → Takes escape c next
  | opens : Takes .none '\\' .begun
  | taken {next : Escape} {c : Char} : next.opened = [] → Takes .begun c next

/-- The reader stops at a quote, or takes one character and goes on. -/
theorem of_readLiteral?_cons {c : Char} {text value rest : List Char} {escape : Escape}
    (h : readLiteral? escape (c :: text) = some (value, rest)) :
    (escape = .none ∧ c = '"' ∧ text = rest)
      ∨ ∃ next value', escape.Takes c next
          ∧ readLiteral? next text = some (value', rest) := by
  have hread : ∀ {d : Char},
      (readLiteral? .none text).map (consRead d) = some (value, rest) →
        ∃ value', readLiteral? .none text = some (value', rest) := by
    intro d hmap
    obtain ⟨⟨value', rest'⟩, hread, heq⟩ := Option.map_eq_some_iff.1 hmap
    injection heq with _ hrest
    subst hrest
    exact ⟨value', hread⟩
  cases escape with
  | none =>
      rw [readLiteral?] at h
      split at h
      next hquote =>
        injection h with h
        injection h with _ hrest
        exact .inl ⟨rfl, hquote, hrest⟩
      next hquote =>
        split at h
        next hbackslash =>
          rw [hbackslash]
          exact .inr ⟨_, _, .opens, h⟩
        next hbackslash =>
          obtain ⟨value', h⟩ := hread h
          exact .inr ⟨_, _, .passed rfl rfl hquote hbackslash, h⟩
  | begun =>
      rw [readLiteral?] at h
      split at h
      next => exact .inr ⟨_, _, .taken rfl, h⟩
      next =>
        split at h
        next => exact .inr ⟨_, _, .taken rfl, h⟩
        next =>
          split at h
          next =>
            obtain ⟨value', h⟩ := hread h
            exact .inr ⟨_, _, .taken rfl, h⟩
          next => cases h
  | code left n =>
      rw [readLiteral?] at h
      split at h
      next => cases h
      next d hdigit =>
        obtain ⟨hquote, hbackslash⟩ := ne_marks_of_digit? hdigit
        split at h
        next => exact .inr ⟨_, _, .passed rfl rfl hquote hbackslash, h⟩
        next =>
          dsimp only at h
          split at h
          next =>
            obtain ⟨value', h⟩ := hread h
            exact .inr ⟨_, _, .passed rfl rfl hquote hbackslash, h⟩
          next => cases h

/-- What is enclosed behind a step is so with the character that the step
takes. -/
theorem Escape.Takes.enclosed {escape next : Escape} {c : Char} (h : escape.Takes c next)
    {inside : List Char} (hinside : Enclosed (next.opened ++ inside)) :
    Enclosed (escape.opened ++ c :: inside) := by
  cases h with
  | passed hescape hnext hquote hbackslash =>
      rw [hnext] at hinside
      rw [hescape]
      exact (Enclosed.plain hquote hbackslash).append hinside
  | opens => exact hinside
  | taken hnext =>
      rw [hnext] at hinside
      exact (Enclosed.taken c).append hinside

/-- Whatever the reader is given, it stops at the quote that closes the
literal by what backslashes do. -/
theorem enclosed_of_readLiteral? {text value rest : List Char} {escape : Escape}
    (h : readLiteral? escape text = some (value, rest)) :
    ∃ inside, text = inside ++ '"' :: rest ∧ Enclosed (escape.opened ++ inside) := by
  induction text generalizing escape value with
  | nil => cases h
  | cons c text ih =>
      rcases of_readLiteral?_cons h with
        ⟨hescape, hquote, hrest⟩ | ⟨next, value', htakes, hread⟩
      · rw [hescape, hquote, hrest]
        exact ⟨[], rfl, .nil⟩
      · obtain ⟨inside, htext, hinside⟩ := ih hread
        exact ⟨c :: inside, congrArg (c :: ·) htext, htakes.enclosed hinside⟩

/-- What follows a literal is shorter than what the reader was given. -/
theorem length_of_readLiteral? {text value rest : List Char} {escape : Escape}
    (h : readLiteral? escape text = some (value, rest)) :
    rest.length < text.length := by
  obtain ⟨inside, htext, -⟩ := enclosed_of_readLiteral? h
  rw [htext, List.length_append, List.length_cons]
  omega

-- ========================================================= escaped text

/-- An escape stands inside the literal as a whole: its backslash takes the
character behind it, and its digits are no marks. -/
theorem Stands.enclosed {c : Char} {shown : List Char} (h : Stands c shown) :
    Enclosed shown := by
  have hdigits : ∀ {digits : List Char} {n : Nat}, Hex.read? 0 digits = some n →
      Enclosed digits := by
    intro digits n hread
    refine .of_plain fun d hd => ?_
    obtain ⟨k, hk⟩ := Hex.exists_digit?_of_read? hread d hd
    exact ne_marks_of_digit? hk
  cases h with
  | self hquote hbackslash _ => exact .plain hquote hbackslash
  | @mark m _ => exact .taken m
  | hex _ hread => exact (Enclosed.taken 'x').append (hdigits hread)
  | unicode _ hread => exact (Enclosed.taken 'u').append (hdigits hread)

/-- Escaped text stands inside a literal. -/
theorem enclosed_escape (text : List Char) : Enclosed (escape text) := by
  induction text with
  | nil => exact .nil
  | cons c text ih =>
      rw [escape_cons]
      exact (stands_escapeChar c).enclosed.append ih

/-- Given the text from the left, the reader is done as soon as it has been
given the quote behind the escaped text, and not before. -/
theorem isSome_readLiteral?_take_iff {text rest : List Char} {n : Nat} :
    (readLiteral? .none ((escape text ++ '"' :: rest).take n)).isSome = true
      ↔ (escape text).length < n := by
  have hclosing := (enclosed_escape text).closing? rest
  constructor
  · intro h
    obtain ⟨⟨value, left⟩, hread⟩ := Option.isSome_iff_exists.1 h
    obtain ⟨inside, htake, hinside⟩ := enclosed_of_readLiteral? hread
    -- what was not given yet stands behind the quote that the reader found
    have hwhole : escape text ++ '"' :: rest
        = inside ++ '"' :: (left ++ (escape text ++ '"' :: rest).drop n) := by
      have hsplit := List.take_append_drop n (escape text ++ '"' :: rest)
      rw [htake, List.append_assoc] at hsplit
      exact hsplit.symm
    rw [closing?_eq_some_iff.2 ⟨hwhole, hinside⟩] at hclosing
    injection hclosing with hclosing
    injection hclosing with hescape _
    have hlength := congrArg List.length htake
    rw [List.length_take, hescape, List.length_append, List.length_append,
      List.length_cons, List.length_cons] at hlength
    omega
  · intro h
    obtain ⟨k, hk⟩ := Nat.exists_eq_add_of_lt h
    have htake : (escape text ++ '"' :: rest).take n
        = escape text ++ '"' :: rest.take k := by
      rw [hk, Nat.add_assoc, List.take_length_add_append, List.take_succ_cons]
    rw [htake, readLiteral?_escape]
    rfl

-- ============================================================= the law

/-- Escaped text delimits itself. Between quotes, and with any text behind
them, it is read back to the closing quote and no further: the reader is
done when it is given that quote and not before, and so is whoever lets a
backslash take one character and looks for the first quote that is left.
So no two texts are escaped alike; and escaped text means nothing in the
attribute around it. -/
theorem escape_delimits_itself :
    (∀ text rest : List Char,
        readLiteral? .none (escape text ++ '"' :: rest) = some (text, rest)
          ∧ (∀ n, (readLiteral? .none ((escape text ++ '"' :: rest).take n)).isSome = true
              ↔ (escape text).length < n)
          ∧ closing? (escape text ++ '"' :: rest) = some (escape text, rest))
      ∧ Function.Injective escape
      ∧ ∀ text, ∀ c ∈ escape text,
          c ≠ '\'' ∧ c ≠ '&' ∧ ¬ c.toNat ≤ 0x1f
            ∧ ¬ (0x7f ≤ c.toNat ∧ c.toNat ≤ 0x9f) := by
  refine ⟨fun text rest => ⟨readLiteral?_escape text rest,
    fun n => isSome_readLiteral?_take_iff, (enclosed_escape text).closing? rest⟩,
    escape_injective, fun text c hc => ?_⟩
  have hharmless := isHarmless_of_mem_escape c hc
  simp only [isHarmless, isControl, Bool.and_eq_true, Bool.not_eq_true',
    Bool.or_eq_false_iff, Bool.and_eq_false_iff, decide_eq_true_eq,
    decide_eq_false_iff_not] at hharmless
  obtain ⟨⟨hquote, hand⟩, hlow, hhigh⟩ := hharmless
  exact ⟨hquote, hand, by omega, by omega⟩

/-- A text whose escapes lean on what follows: a backslash before a quote, a
control before hexadecimal digits, both marks of the attribute, and a
backslash at the end. -/
theorem escape_delimits_itself_backslashAtEnd :
    escape "\\\"\x07f\u0085'&\\".toList
        = "\\\\\\\"\\u0007f\\u0085\\x27\\x26\\\\".toList
      ∧ readLiteral? .none
          (escape "\\\"\x07f\u0085'&\\".toList ++ '"' :: "\", 1);".toList)
        = some ("\\\"\x07f\u0085'&\\".toList, "\", 1);".toList)
      ∧ '\\' ∈ escape "\\\"\x07f\u0085'&\\".toList
      ∧ ('\\' ≠ '\'' ∧ '\\' ≠ '&' ∧ ¬ '\\'.toNat ≤ 0x1f
          ∧ ¬ (0x7f ≤ '\\'.toNat ∧ '\\'.toNat ≤ 0x9f)) := by
  have hmem : '\\' ∈ escape "\\\"\x07f\u0085'&\\".toList := by decide
  exact ⟨by decide, (escape_delimits_itself.1 _ _).1, hmem,
    escape_delimits_itself.2.2 _ _ hmem⟩

end ConsoleLinks.Anchor
