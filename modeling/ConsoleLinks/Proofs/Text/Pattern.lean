/-
Regular patterns over whole texts, and the texts they stand for: the
second way to say what a line looks like, beside the readers that take
lines apart. A pattern says nothing about how a text is searched; it
stands for a set of texts (`Fits`), and a reader is right when it accepts
just that set.

Consumed by the pattern laws of the two grammars (`Line/Java/Patterns.lean`,
`Line/CSharp/Patterns.lean`). The lemmas turn the combinations that occur
there into statements about the text: runs of a class, and parts that a
mark ends.
-/
import ConsoleLinks.Text.Digit
import ConsoleLinks.Proofs.Text.Pieces
import ConsoleLinks.Proofs.Text.Runs

namespace ConsoleLinks.Text

/-- A regular pattern. -/
inductive Pattern where
  /-- This text. -/
  | word (text : String)
  /-- One character of a class. -/
  | one (accepts : Char → Bool)
  /-- One pattern and then another. -/
  | seq (first second : Pattern)
  /-- One pattern or another. -/
  | alt (first second : Pattern)
  /-- A pattern any number of times. -/
  | many (repeated : Pattern)

namespace Pattern

instance : Append Pattern := ⟨seq⟩

instance : OrOp Pattern := ⟨alt⟩

/-- At least once. -/
def oneOrMore (p : Pattern) : Pattern := p ++ many p

/-- Once or not at all. -/
def maybe (p : Pattern) : Pattern := p ||| word ""

/-- White space, or none. -/
def blanks : Pattern := many (one isBlank)

/-- At least one character of white space. -/
def gap : Pattern := oneOrMore (one isBlank)

/-- A character that is no white space. -/
def mark : Pattern := one fun c => !isBlank c

/-- A number. -/
def digits : Pattern := oneOrMore (one isDigit)

/-- Anything, as long as it stays on the line. -/
def line : Pattern := many (one (· ≠ '\n'))

/-- Nothing, or a colon and a message on the same line. -/
def message : Pattern := maybe (word ":" ++ line)

/-- A pattern behind a separator somewhere on the line. -/
def beyond (separator : String) (p : Pattern) : Pattern := line ++ word separator ++ p

/-- The texts that a pattern stands for. -/
def Fits : Pattern → List Char → Prop
  | word expected, text => text = expected.toList
  | one accepts, text => ∃ c, text = [c] ∧ accepts c = true
  | seq p q, text => ∃ front back, text = front ++ back ∧ p.Fits front ∧ q.Fits back
  | alt p q, text => p.Fits text ∨ q.Fits text
  | many p, text =>
    ∃ parts : List (List Char), text = parts.flatten ∧ ∀ part ∈ parts, p.Fits part

-- ====================================================== put together

variable {p q : Pattern} {accepts : Char → Bool}

theorem fits_word (expected : String) : (word expected).Fits expected.toList := rfl

theorem Fits.append {front back : List Char} (h : p.Fits front)
    (h' : q.Fits back) : (p ++ q).Fits (front ++ back) :=
  ⟨front, back, rfl, h, h'⟩

theorem Fits.left {text : List Char} (h : p.Fits text) : (p ||| q).Fits text :=
  Or.inl h

theorem Fits.right {text : List Char} (h : q.Fits text) : (p ||| q).Fits text :=
  Or.inr h

-- ======================================================= taken apart

theorem fits_or {text : List Char} :
    (p ||| q).Fits text ↔ p.Fits text ∨ q.Fits text :=
  Iff.rfl

/-- What may be missing is there or is missing. -/
theorem fits_maybe {text : List Char} :
    (maybe p).Fits text ↔ p.Fits text ∨ text = [] :=
  Iff.rfl

/-- A run of a class. -/
theorem fits_many_one {text : List Char} :
    (many (one accepts)).Fits text ↔ ∀ c ∈ text, accepts c = true := by
  constructor
  · rintro ⟨parts, rfl, hparts⟩ c hc
    obtain ⟨part, hpart, hc⟩ := List.mem_flatten.1 hc
    obtain ⟨d, rfl, hd⟩ := hparts part hpart
    rw [List.mem_singleton.1 hc]
    exact hd
  · intro h
    refine ⟨text.map fun c => [c], ?_, fun part hpart => ?_⟩
    · induction text with
      | nil => rfl
      | cons c text ih =>
          rw [List.map_cons, List.flatten_cons,
            ← ih fun d hd => h d (List.mem_cons_of_mem c hd)]
          rfl
    · obtain ⟨c, hc, rfl⟩ := List.mem_map.1 hpart
      exact ⟨c, rfl, h c hc⟩

/-- A character that is no white space. -/
theorem fits_mark {text : List Char} :
    mark.Fits text ↔ ∃ c, text = [c] ∧ isBlank c = false := by
  simp [mark, Fits]

/-- One character and a run of a class behind it. -/
theorem fits_one_many {opens : Char → Bool} {text : List Char} :
    (one opens ++ many (one accepts)).Fits text
      ↔ ∃ c rest, text = c :: rest ∧ opens c = true ∧ ∀ d ∈ rest, accepts d = true := by
  constructor
  · rintro ⟨_, rest, rfl, ⟨c, rfl, hc⟩, hrest⟩
    exact ⟨c, rest, rfl, hc, fits_many_one.1 hrest⟩
  · rintro ⟨c, rest, rfl, hc, hrest⟩
    exact ⟨[c], rest, rfl, ⟨c, rfl, hc⟩, fits_many_one.2 hrest⟩

/-- The pattern of names stands for the names. -/
theorem fits_isNameOf {opens continues : Char → Bool} {text : List Char} :
    (one opens ++ many (one continues)).Fits text ↔ isNameOf opens continues text = true := by
  refine fits_one_many.trans ⟨?_, fun h => ?_⟩
  · rintro ⟨c, rest, rfl, hname⟩
    exact isNameOf_cons.2 hname
  · cases text with
    | nil => cases h
    | cons c rest => exact ⟨c, rest, rfl, isNameOf_cons.1 h⟩

/-- A run of a class that is not empty. -/
theorem fits_oneOrMore_one {text : List Char} :
    (oneOrMore (one accepts)).Fits text
      ↔ text ≠ [] ∧ ∀ c ∈ text, accepts c = true := by
  refine fits_one_many.trans ⟨?_, ?_⟩
  · rintro ⟨c, rest, rfl, hc, hrest⟩
    exact ⟨List.cons_ne_nil c rest, List.forall_mem_cons.2 ⟨hc, hrest⟩⟩
  · rintro ⟨hne, h⟩
    obtain ⟨c, rest, rfl⟩ := List.exists_cons_of_ne_nil hne
    exact ⟨c, rest, rfl, List.forall_mem_cons.1 h⟩

/-- The run that a text begins with. -/
theorem fits_takeWhile (accepts : Char → Bool) (text : List Char) :
    (many (one accepts)).Fits (text.takeWhile accepts) :=
  fits_many_one.2 (List.all_eq_true.1 List.all_takeWhile)

/-- The same run, for a text that is read from its end. -/
theorem fits_reverse_takeWhile (accepts : Char → Bool) (text : List Char) :
    (many (one accepts)).Fits (text.takeWhile accepts).reverse :=
  fits_many_one.2 fun c hc =>
    List.all_eq_true.1 List.all_takeWhile c (List.mem_reverse.1 hc)

/-- A run that is not empty. -/
theorem Fits.oneOrMore {text : List Char} (h : (many (one accepts)).Fits text)
    (hne : text ≠ []) : (oneOrMore (one accepts)).Fits text :=
  fits_oneOrMore_one.2 ⟨hne, fits_many_one.1 h⟩

/-- What a leading run is followed by, with the run put back. -/
theorem exists_run {text rest : List Char} (h : text.dropWhile accepts = rest) :
    ∃ run, (many (one accepts)).Fits run ∧ text = run ++ rest :=
  ⟨_, fits_takeWhile accepts text, by rw [← h, List.takeWhile_append_dropWhile]⟩

/-- The same for a run that is not empty. -/
theorem exists_run_of_ne_nil {text rest : List Char}
    (hne : text.takeWhile accepts ≠ []) (h : text.dropWhile accepts = rest) :
    ∃ run, (Pattern.oneOrMore (one accepts)).Fits run ∧ text = run ++ rest :=
  ⟨_, (fits_takeWhile accepts text).oneOrMore hne,
    by rw [← h, List.takeWhile_append_dropWhile]⟩

/-- Both cuts of a run that is not empty, where something outside the
class follows it. -/
theorem cut_of_run {run rest : List Char} (hrun : (oneOrMore (one accepts)).Fits run)
    (hrest : ∀ c ∈ rest.head?, accepts c = false) :
    (run ++ rest).takeWhile accepts ≠ [] ∧ (run ++ rest).dropWhile accepts = rest := by
  obtain ⟨hne, hall⟩ := fits_oneOrMore_one.1 hrun
  rw [takeWhile_append_of_boundary hall hrest]
  exact ⟨hne, dropWhile_append_of_boundary hall hrest⟩

/-- What trailing white space follows, with the white space put back. -/
theorem exists_closing {text rest : List Char} (h : dropBlanksEnd text = rest) :
    ∃ closing, blanks.Fits closing ∧ text = rest ++ closing :=
  ⟨_, fits_reverse_takeWhile isBlank text.reverse, by rw [← h, dropBlanksEnd_append]⟩

/-- Text that stays on the line. -/
theorem fits_line {text : List Char} : line.Fits text ↔ '\n' ∉ text := by
  refine fits_many_one.trans ⟨fun h hmem => ?_, fun h c hc => ?_⟩
  · have hne := h '\n' hmem
    revert hne
    decide
  · exact decide_eq_true fun heq => h (heq ▸ hc)

/-- Nothing is found behind a separator at the end of the text. -/
theorem not_fits_beyond_nil {separator : String} {s : Char}
    (hseparator : separator.toList = [s]) : ¬ (beyond separator p).Fits [] := by
  rintro ⟨_, rest, hnil, ⟨front, _, rfl, -, rfl⟩, -⟩
  rw [hseparator] at hnil
  simp at hnil

/-- What a search from the front does with one character: it ends there,
or goes on as long as the line does. -/
theorem fits_beyond_cons {separator : String} {s c : Char} {text : List Char}
    (hseparator : separator.toList = [s]) :
    (beyond separator p).Fits (c :: text)
      ↔ c = s ∧ p.Fits text ∨ c ≠ '\n' ∧ (beyond separator p).Fits text := by
  constructor
  · rintro ⟨_, rest, htext, ⟨front, _, rfl, hfront, rfl⟩, hrest⟩
    rw [hseparator] at htext
    cases front with
    | nil =>
        injection htext with hc htext
        rw [htext]
        exact .inl ⟨hc, hrest⟩
    | cons d front =>
        injection htext with hc htext
        rw [fits_line, List.mem_cons, not_or] at hfront
        rw [hc, htext]
        exact .inr ⟨Ne.symm hfront.1, _, rest, rfl, ⟨front, [s], rfl, fits_line.2 hfront.2,
          hseparator.symm⟩, hrest⟩
  · rintro (⟨rfl, hrest⟩ | ⟨hc, _, rest, rfl, ⟨front, _, rfl, hfront, rfl⟩, hrest⟩)
    · exact ⟨[c], text, rfl, ⟨[], [c], rfl, fits_line.2 List.not_mem_nil,
        hseparator.symm⟩, hrest⟩
    · refine ⟨_, rest, rfl, ⟨c :: front, _, rfl, ?_, rfl⟩, hrest⟩
      rw [fits_line, List.mem_cons, not_or]
      exact ⟨Ne.symm hc, fits_line.1 hfront⟩

/-- A message is missing, or stands behind its colon. -/
theorem fits_message {text : List Char} :
    message.Fits text ↔ text = [] ∨ ∃ rest, text = ':' :: rest ∧ '\n' ∉ rest := by
  rw [message, fits_maybe, or_comm]
  refine or_congr_right ⟨?_, ?_⟩
  · rintro ⟨_, rest, rfl, rfl, hrest⟩
    exact ⟨rest, rfl, fits_line.1 hrest⟩
  · rintro ⟨rest, rfl, hrest⟩
    exact (fits_word ":").append (fits_line.2 hrest)

/-- Parts that a mark ends, one after the other. -/
theorem fits_many_ended {separator : String} {text : List Char} {c : Char}
    (hseparator : separator.toList = [c]) :
    (many (p ++ word separator)).Fits text
      ↔ ∃ parts, text = ended c parts ∧ ∀ part ∈ parts, p.Fits part := by
  constructor
  · rintro ⟨parts, rfl, hparts⟩
    induction parts with
    | nil => exact ⟨[], rfl, fun part hpart => absurd hpart List.not_mem_nil⟩
    | cons part parts ih =>
        obtain ⟨front, _, rfl, hfront, rfl⟩ := hparts _ (List.mem_cons_self ..)
        obtain ⟨fronts, hrest, hfronts⟩ :=
          ih fun part hpart => hparts part (List.mem_cons_of_mem _ hpart)
        refine ⟨front :: fronts, ?_, fun part hpart => ?_⟩
        · rw [List.flatten_cons, hrest, hseparator, ended_cons, List.append_assoc]
          rfl
        · rcases List.mem_cons.1 hpart with rfl | hpart
          · exact hfront
          · exact hfronts part hpart
  · rintro ⟨parts, rfl, hparts⟩
    refine ⟨parts.map (· ++ separator.toList), ?_, fun part hpart => ?_⟩
    · rw [hseparator, ended, List.flatMap_def]
    · obtain ⟨front, hfront, rfl⟩ := List.mem_map.1 hpart
      exact (hparts front hfront).append (fits_word separator)

/-- The same with at least one part. -/
theorem fits_oneOrMore_ended {separator : String} {text : List Char} {c : Char}
    (hseparator : separator.toList = [c]) :
    (oneOrMore (p ++ word separator)).Fits text
      ↔ ∃ parts, parts ≠ [] ∧ text = ended c parts ∧ ∀ part ∈ parts, p.Fits part := by
  constructor
  · rintro ⟨_, back, rfl, ⟨front, _, rfl, hfront, rfl⟩, hback⟩
    obtain ⟨parts, rfl, hparts⟩ := (fits_many_ended hseparator).1 hback
    refine ⟨front :: parts, List.cons_ne_nil front parts, ?_, fun part hpart => ?_⟩
    · rw [hseparator, ended_cons, List.append_assoc]
      rfl
    · rcases List.mem_cons.1 hpart with rfl | hpart
      · exact hfront
      · exact hparts part hpart
  · rintro ⟨parts, hne, rfl, hparts⟩
    obtain ⟨front, parts, rfl⟩ := List.exists_cons_of_ne_nil hne
    have hfront : (p ++ word separator).Fits (front ++ separator.toList) :=
      (hparts front (List.mem_cons_self ..)).append (fits_word separator)
    have hback := (fits_many_ended hseparator).2
      ⟨parts, rfl, fun part hpart => hparts part (List.mem_cons_of_mem front hpart)⟩
    have hsplit : ended c (front :: parts)
        = front ++ separator.toList ++ ended c parts := by
      rw [hseparator, ended_cons, List.append_assoc]
      rfl
    rw [hsplit]
    exact hfront.append hback

end Pattern

end ConsoleLinks.Text
