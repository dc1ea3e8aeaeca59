/-
The arguments of a payload, read back. An argument is a literal, `null` or
a number; a list of them is separated by commas, each with at most one
blank behind it, and ends in `);` (`readArguments?`).

The three targets lay their arguments out differently, with a blank or
without, with a project or `null`. All layouts are lists of arguments
joined by one separator (`argumentsOf_eq_listed`), so the reading is one
induction over such a list (`readArguments?_listed`).
-/
import ConsoleLinks.Anchor.Payload
import ConsoleLinks.Text.Decimal
import ConsoleLinks.Proofs.Anchor.Closing
import ConsoleLinks.Proofs.Text.Runs

namespace ConsoleLinks.Anchor

open Text

-- ========================================================= the reader

/-- An argument, as it is meant. -/
inductive Argument where
  | text (value : List Char)
  | null
  | number (value : Nat)
deriving DecidableEq

/-- Reads one argument, and what follows it. -/
def readArgument? (text : List Char) : Option (Argument × List Char) :=
  match afterWord? ['"'] text with
  | some rest =>
    (readLiteral? .none rest).map fun read => (.text read.1, read.2)
  | none =>
    match afterWord? "null".toList text with
    | some rest => some (.null, rest)
    | none =>
      (Decimal.read? (text.takeWhile Char.isDigit)).map fun n =>
        (.number n, text.dropWhile Char.isDigit)

/-- A text without one leading blank. -/
def afterBlank : List Char → List Char
  | ' ' :: rest => rest
  | text => text

/-- Every argument takes up some of the text. -/
theorem length_of_readArgument? {text rest : List Char} {a : Argument}
    (h : readArgument? text = some (a, rest)) : rest.length < text.length := by
  unfold readArgument? at h
  split at h
  next rest' hquote =>
    obtain ⟨⟨value, behind⟩, hread, heq⟩ := Option.map_eq_some_iff.1 h
    injection heq with _ hrest
    have hrest : behind = rest := hrest
    rw [hrest] at hread
    have hlen := length_of_readLiteral? hread
    rw [eq_append_of_afterWord? hquote, List.singleton_append, List.length_cons]
    omega
  next =>
    split at h
    next rest' hnull =>
      injection h with h
      injection h with _ hrest
      rw [eq_append_of_afterWord? hnull, hrest, List.length_append]
      have hword : 0 < "null".toList.length := by decide
      omega
    next =>
      obtain ⟨n, hread, heq⟩ := Option.map_eq_some_iff.1 h
      injection heq with _ hrest
      have hne : text.takeWhile Char.isDigit ≠ [] := by
        intro hnil
        rw [hnil] at hread
        cases hread
      have hsplit := congrArg List.length
        (List.takeWhile_append_dropWhile (p := Char.isDigit) (l := text))
      have hpos := List.length_pos_iff.2 hne
      rw [List.length_append, hrest] at hsplit
      omega

/-- Leaving a blank out makes no text longer. -/
theorem length_afterBlank_le (text : List Char) :
    (afterBlank text).length ≤ text.length := by
  unfold afterBlank
  split
  next rest => exact Nat.le_succ rest.length
  next => exact Nat.le_refl _

/-- Reads arguments up to the mark that closes the call, and what follows
it. -/
def readArguments? (text : List Char) : Option (List Argument × List Char) :=
  match _hread : readArgument? (afterBlank text) with
  | some (a, ',' :: rest) =>
    (readArguments? rest).map fun read => (a :: read.1, read.2)
  | some (a, ')' :: ';' :: rest) => some ([a], rest)
  | _ => none
termination_by text.length
decreasing_by
  have hlen := length_of_readArgument? _hread
  have hblank := length_afterBlank_le text
  rw [List.length_cons] at hlen
  omega

/-- An argument with a comma behind it is followed by more. -/
theorem readArguments?_comma {text rest : List Char} {a : Argument}
    (h : readArgument? (afterBlank text) = some (a, ',' :: rest)) :
    readArguments? text
      = (readArguments? rest).map fun read => (a :: read.1, read.2) := by
  rw [readArguments?]
  split
  next a' rest' hread =>
    rw [h] at hread
    injection hread with hread
    injection hread with ha hrest
    injection hrest with _ hrest
    rw [ha, hrest]
  next hread =>
    rw [h] at hread
    cases hread
  next hcomma _ => exact absurd h (hcomma a rest)

/-- An argument with the closing mark behind it is the last. -/
theorem readArguments?_close {text rest : List Char} {a : Argument}
    (h : readArgument? (afterBlank text) = some (a, ')' :: ';' :: rest)) :
    readArguments? text = some ([a], rest) := by
  rw [readArguments?]
  split
  next hread =>
    rw [h] at hread
    cases hread
  next hread =>
    rw [h] at hread
    cases hread
    rfl
  next hclose => exact absurd h (hclose a rest)

-- ============================================= arguments as written

/-- How an argument is written. -/
def Argument.written : Argument → List Char
  | text value => ['"'] ++ escape value ++ ['"']
  | null => "null".toList
  | number n => Decimal.digits n

/-- A number begins with a digit. -/
theorem exists_digits_eq_cons (n : Nat) :
    ∃ c rest, Decimal.digits n = c :: rest ∧ c.isDigit = true := by
  cases hdigits : Decimal.digits n with
  | nil => exact absurd hdigits (Decimal.digits_ne_nil n)
  | cons c rest =>
      refine ⟨c, rest, rfl, Decimal.isDigit_of_mem_digits (n := n) ?_⟩
      rw [hdigits]
      exact List.mem_cons_self ..

/-- A number begins with none of the words that open other arguments. -/
theorem afterWord?_digits {c : Char} (hc : c.isDigit = false)
    (word rest : List Char) (n : Nat) :
    afterWord? (c :: word) (Decimal.digits n ++ rest) = none := by
  obtain ⟨d, ds, hdigits, hd⟩ := exists_digits_eq_cons n
  have hne : c ≠ d := by
    rintro rfl
    rw [hc] at hd
    cases hd
  rw [hdigits, List.cons_append, afterWord?, if_neg hne]

/-- An argument is read back when no digit follows it. -/
theorem readArgument?_written (a : Argument) {rest : List Char}
    (hrest : ∀ c ∈ rest.head?, c.isDigit = false) :
    readArgument? (a.written ++ rest) = some (a, rest) := by
  unfold readArgument?
  cases a with
  | text value =>
      rw [Argument.written, List.append_assoc, List.append_assoc, afterWord?_append]
      dsimp only
      rw [List.singleton_append, readLiteral?_escape]
      rfl
  | null =>
      have hquote : afterWord? ['"'] ("null".toList ++ rest) = none := rfl
      rw [Argument.written, hquote, afterWord?_append]
  | number n =>
      have hdigits : ∀ c ∈ Decimal.digits n, c.isDigit = true :=
        fun c hc => Decimal.isDigit_of_mem_digits hc
      have hnull : afterWord? "null".toList (Decimal.digits n ++ rest) = none :=
        afterWord?_digits (by decide) _ rest n
      rw [Argument.written, afterWord?_digits (by decide), hnull]
      dsimp only
      rw [takeWhile_append_of_boundary hdigits hrest,
        dropWhile_append_of_boundary hdigits hrest, Decimal.read?_digits]
      rfl

/-- An optional blank in front of an argument is left out. -/
theorem afterBlank_written {blank : List Char}
    (hblank : blank = [] ∨ blank = [' ']) (a : Argument) (rest : List Char) :
    afterBlank (blank ++ (a.written ++ rest)) = a.written ++ rest := by
  rcases hblank with rfl | rfl
  · have hfirst : ∃ c behind, a.written = c :: behind ∧ c ≠ ' ' := by
      cases a with
      | text value => exact ⟨'"', _, rfl, by decide⟩
      | null => exact ⟨'n', _, rfl, by decide⟩
      | number n =>
          obtain ⟨c, behind, hdigits, hc⟩ := exists_digits_eq_cons n
          refine ⟨c, behind, hdigits, ?_⟩
          rintro rfl
          revert hc
          decide
    obtain ⟨c, behind, hwritten, hc⟩ := hfirst
    rw [List.nil_append, hwritten, List.cons_append, afterBlank]
    intro rest' heq
    injection heq with heq _
    exact hc heq
  · rfl

-- ======================================================= joined lists

/-- Arguments, each after the first behind the separator. -/
def listed (separator : List Char) : List Argument → List Char
  | [] => []
  | first :: more => first.written ++ more.flatMap (separator ++ ·.written)

theorem listed_cons_cons (separator : List Char) (first second : Argument)
    (more : List Argument) :
    listed separator (first :: second :: more)
      = first.written ++ (separator ++ listed separator (second :: more)) := by
  simp [listed]

/-- Arguments joined by commas, with a blank behind each or none, are read
back up to the mark that closes the call. -/
theorem readArguments?_listed {blank : List Char}
    (hblank : blank = [] ∨ blank = [' ']) (first : Argument)
    (more : List Argument) (rest : List Char) {lead : List Char}
    (hlead : lead = [] ∨ lead = [' ']) :
    readArguments? (lead
        ++ (listed (',' :: blank) (first :: more) ++ ')' :: ';' :: rest))
      = some (first :: more, rest) := by
  induction more generalizing first lead with
  | nil =>
      refine readArguments?_close ?_
      rw [listed, List.flatMap_nil, List.append_nil, afterBlank_written hlead]
      exact readArgument?_written first (by simp)
  | cons second more ih =>
      have hread : readArguments? (lead
            ++ (listed (',' :: blank) (first :: second :: more) ++ ')' :: ';' :: rest))
          = (readArguments? (blank
              ++ (listed (',' :: blank) (second :: more) ++ ')' :: ';' :: rest))).map
            fun read => (first :: read.1, read.2) := by
        refine readArguments?_comma ?_
        rw [listed_cons_cons, List.append_assoc, afterBlank_written hlead,
          readArgument?_written first (by simp)]
        simp
      rw [hread, ih second hblank]
      rfl

/-- What arguments are written with is harmless, if the separator is. -/
theorem isHarmless_of_mem_listed {separator : List Char}
    (hseparator : ∀ c ∈ separator, isHarmless c = true)
    (arguments : List Argument) :
    ∀ c ∈ listed separator arguments, isHarmless c = true := by
  have hwritten : ∀ a : Argument, ∀ c ∈ a.written, isHarmless c = true := by
    intro a
    cases a with
    | text value =>
        rw [Argument.written]
        simp only [List.forall_mem_append]
        exact ⟨⟨List.all_eq_true.1 rfl, isHarmless_of_mem_escape⟩,
          List.all_eq_true.1 rfl⟩
    | null => exact List.all_eq_true.1 rfl
    | number n =>
        intro c hc
        have hrange := toNat_of_isDigit (Decimal.isDigit_of_mem_digits hc)
        exact isHarmless_of_toNat (by omega) (by omega) (by omega) (by omega)
  cases arguments with
  | nil => exact fun c hc => absurd hc List.not_mem_nil
  | cons first more =>
      refine List.forall_mem_append.2 ⟨hwritten first, fun c hc => ?_⟩
      obtain ⟨a, -, hc⟩ := List.mem_flatMap.1 hc
      exact List.forall_mem_append.2 ⟨hseparator, hwritten a⟩ c hc

-- ============================================================ targets

/-- The fields of a target, in order, as arguments. -/
def fields : NavigationTarget → List Argument
  | .openSymbol symbol file line =>
    [.text symbol.toList, .text file.toList, .number line.toNat]
  | .openFile file line => [.text file.toList, .number line.toNat]
  | .openProjectFile file project line column =>
    [.text file.toList, project.elim .null (.text ·.toList), .number line.toNat,
      .number column.toNat]

/-- What stands behind the commas between a target's arguments. -/
def blankOf : NavigationTarget → List Char
  | .openSymbol .. => [' ']
  | .openFile .. | .openProjectFile .. => []

/-- There is one blank there, or none. -/
theorem blankOf_eq (target : NavigationTarget) :
    blankOf target = [] ∨ blankOf target = [' '] := by
  cases target with
  | openSymbol => exact .inr rfl
  | openFile => exact .inl rfl
  | openProjectFile => exact .inl rfl

/-- The arguments of a payload are the target's fields, joined. -/
theorem argumentsOf_eq_listed (target : NavigationTarget) :
    argumentsOf target = listed (',' :: blankOf target) (fields target) := by
  cases target with
  | openSymbol symbol file line =>
      have hcomma : ", ".toList = [',', ' '] := by decide
      simp [argumentsOf, textArgument, numberArgument, fields, listed, blankOf,
        Argument.written, Decimal.digits, hcomma]
  | openFile file line =>
      simp [argumentsOf, textArgument, numberArgument, fields, listed, blankOf,
        Argument.written, Decimal.digits]
  | openProjectFile file project line column =>
      have hproject : projectArgument project
          = (project.elim Argument.null (.text ·.toList)).written := by
        cases project with
        | none => rfl
        | some name => rfl
      simp [argumentsOf, textArgument, numberArgument, fields, listed, blankOf,
        Argument.written, Decimal.digits, hproject]

/-- A target's arguments are read back, and nothing but what follows the
closing mark is left. -/
theorem readArguments?_argumentsOf (target : NavigationTarget) (rest : List Char) :
    readArguments? (argumentsOf target ++ ')' :: ';' :: rest)
      = some (fields target, rest) := by
  have hfields : ∃ first more, fields target = first :: more := by
    cases target with
    | openSymbol => exact ⟨_, _, rfl⟩
    | openFile => exact ⟨_, _, rfl⟩
    | openProjectFile => exact ⟨_, _, rfl⟩
  obtain ⟨first, more, hfields⟩ := hfields
  have hread := readArguments?_listed (blankOf_eq target) first more rest
    (.inl (rfl : [] = []))
  rw [argumentsOf_eq_listed, hfields]
  exact hread

end ConsoleLinks.Anchor
