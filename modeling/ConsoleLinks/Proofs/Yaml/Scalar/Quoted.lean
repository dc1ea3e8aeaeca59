/-
Quoted scalars, printed and read back.

Between single quotes the reader folds the gaps in a text. A gap that the
printer leaves there loses nothing (`Gap.Faithful`): it is made of blanks
or of breaks, never of both, and no break in it is a line feed, of which a
fold makes a space. The indentation behind a break belongs to the broken
gap and leaves no trace (`scanSingle_indentation`). So one step of the
printer is one or two steps of the reader, and the whole is an induction
over the text (`scanSingle_single`).

Between double quotes every character stands in one of three ways, and
`scanDouble_escapeChar` reads back all three; the text follows
(`scanDouble_escaped`).

Consumed by the tokens of scalars (`Proofs/Yaml/Steps.lean`).
-/
import ConsoleLinks.Proofs.Text.Hex
import ConsoleLinks.Proofs.Yaml.Characters
import ConsoleLinks.Yaml.Scalar.Quoted

namespace ConsoleLinks.Yaml

-- ========================================================= faithful gaps

/-- A gap that stands for all of its characters. -/
structure Gap.Faithful (g : Gap) : Prop where
  unjoined : g.joined = false
  apart : g.blanks = [] ∨ g.breaks = []
  separators : ∀ c ∈ g.breaks, c ≠ '\n'

namespace Gap

theorem Faithful.ofBlanks (blanks : List Char) : Faithful { blanks := blanks } :=
  ⟨rfl, .inr rfl, fun _ hc => absurd hc List.not_mem_nil⟩

theorem Faithful.onto_eq {g : Gap} (h : g.Faithful) (read : List Char) :
    g.onto read = g.blanks ++ g.breaks ++ read := by
  have htext : g.text = g.breaks.reverse ++ g.blanks.reverse := by
    unfold text
    split
    next hnil =>
      rw [List.reverse_eq_nil_iff] at hnil
      simp [hnil]
    next all hall =>
      have hblanks : g.blanks = [] := by
        rcases h.apart with hnil | hnil
        · exact hnil
        · exact absurd (by rw [hnil]; rfl) hall
      rw [if_neg (by simp [h.unjoined])]
      split
      next heq =>
        have hmem : '\n' ∈ g.breaks := List.mem_reverse.1 (by rw [heq]; exact List.mem_cons_self)
        exact absurd rfl (h.separators '\n' hmem)
      next heq =>
        have hmem : '\n' ∈ g.breaks := List.mem_reverse.1 (by rw [heq]; exact List.mem_cons_self)
        exact absurd rfl (h.separators '\n' hmem)
      next => simp [hblanks]
  simp [onto, htext]

end Gap

namespace Quoted

open Text
open Printer (isPrintable hasPair hasSpaceBeforeBreak hasSpaceAfterBreak single shortEscape?
  escapeChar spaces)

-- ====================================================== pairs of neighbours

/-- The neighbours in a text are its first two characters and those behind
the first. -/
theorem of_hasPair_cons {r : Char → Char → Bool} {c : Char} {rest : List Char}
    (h : hasPair r (c :: rest) = false) :
    hasPair r rest = false ∧ ∀ d ∈ rest.head?, r c d = false := by
  cases rest with
  | nil => exact ⟨rfl, fun d hd => by cases hd⟩
  | cons e rest =>
      have hall : (r c e || hasPair r (e :: rest)) = false := h
      obtain ⟨hpair, hrest⟩ := Bool.or_eq_false_iff.1 hall
      refine ⟨hrest, fun d hd => ?_⟩
      obtain rfl : e = d := by simpa using hd
      exact hpair

/-- The text between single quotes, or what is left of it behind a gap: no
character needs an escape and no blank stands at a break. -/
structure Fits (g : Gap) (text : List Char) : Prop where
  printable : Printable text
  unwrapped : ∀ c ∈ text, c ≠ '\n'
  before : hasSpaceBeforeBreak text = false
  after : hasSpaceAfterBreak text = false
  unended : g.blanks ≠ [] → ∀ c ∈ text.head?, isBreak c = false
  unbegun : g.broken = true → ∀ c ∈ text.head?, c ≠ ' '

/-- What is left of a text behind its first character, and behind the gap
that this makes. -/
theorem Fits.tail {g g' : Gap} {c : Char} {rest : List Char} (h : Fits g (c :: rest))
    (hblanks : g'.blanks ≠ [] → c = ' ') (hbreaks : g'.broken = true → isBreak c = true) :
    Fits g' rest where
  printable d hd := h.printable d (List.mem_cons_of_mem c hd)
  unwrapped d hd := h.unwrapped d (List.mem_cons_of_mem c hd)
  before := (of_hasPair_cons h.before).1
  after := (of_hasPair_cons h.after).1
  unended hne d hd := by
    have hpair := (of_hasPair_cons h.before).2 d hd
    simpa [hblanks hne] using hpair
  unbegun hbroken d hd := by
    have hpair := (of_hasPair_cons h.after).2 d hd
    simpa [hbreaks hbroken] using hpair

-- ========================================================= single quotes

section Single

variable {g : Gap} {read : List Char} {place : Place} {c : Char} {rest : List Char}

/-- One character that is not a quote. -/
theorem scanSingle_cons (hc : c ≠ '\'') :
    scanSingle g read place (c :: rest)
      = if isBlank c || isBreak c then scanSingle (g.push c) read (place.next c) rest
        else if place.column = 0 && isDocumentMark (c :: rest) then none
        else scanSingle {} (c :: g.onto read) (place.next c) rest := by
  rw [scanSingle]
  · simp [hc]
  · exact fun _ hquote _ => hc hquote

/-- A quote that no second one follows is the closing one. -/
theorem scanSingle_end (hplace : 0 < place.column) (hrest : rest.head? ≠ some '\'') :
    scanSingle g read place ('\'' :: rest)
      = some ((g.onto read).reverse, ⟨place.next '\'', rest⟩) := by
  rw [scanSingle, if_neg (by decide), if_neg (by simp [Nat.ne_of_gt hplace]), if_pos rfl]
  intro rest' _ hquote
  simp [hquote] at hrest

/-- Once a gap reaches over the end of a line, the blanks that follow are
passed over. -/
theorem scanSingle_spaces (hbroken : g.broken = true) (n : Nat) (place : Place) :
    scanSingle g read place (spaces n ++ rest)
      = scanSingle g read ⟨place.line, place.column + n⟩ rest := by
  induction n generalizing place with
  | zero => rfl
  | succ n ih =>
      have hpush : g.push ' ' = g := by
        simp [Gap.push, isBreak_space, hbroken]
      rw [spaces_succ, List.cons_append, scanSingle_cons (by decide), if_pos (by decide),
        hpush, Place.next_space, ih]
      simp only [Nat.add_assoc, Nat.add_comm 1]

/-- The indentation behind a break is read with the gap. Either way the
reader is no longer at the front of a line. -/
theorem scanSingle_indentation (hplace : g.broken = false → 0 < place.column)
    {indent : Nat} (hindent : 0 < indent) (read rest : List Char) :
    ∃ p : Place, p.line = place.line ∧ 0 < p.column ∧
      scanSingle g read place ((if g.broken then spaces indent else []) ++ rest)
        = scanSingle g read p rest := by
  by_cases hbroken : g.broken = true
  · rw [if_pos hbroken]
    exact ⟨⟨place.line, place.column + indent⟩, rfl, Nat.add_pos_right _ hindent,
      scanSingle_spaces hbroken indent place⟩
  · rw [if_neg hbroken]
    exact ⟨place, rfl, hplace (by simpa using hbroken), rfl⟩

/-- A character within a line is added to what the reader has: a quote,
which stands twice, or a word's character closes the gap, and a space
extends it. -/
theorem scanSingle_char (hgap : g.Faithful) (hprintable : isPrintable c = true)
    (hbreak : isBreak c = false) (hspace : g.broken = true → c ≠ ' ')
    (hplace : 0 < place.column) (read rest : List Char) :
    ∃ (g' : Gap) (read' : List Char) (place' : Place),
      (g'.Faithful ∧ g'.broken = false ∧ (g'.blanks ≠ [] → c = ' ')
        ∧ g'.onto read' = c :: g.onto read)
      ∧ (place'.line = place.line ∧ 0 < place'.column)
      ∧ scanSingle g read place ((if c = '\'' then ['\'', '\''] else [c]) ++ rest)
          = scanSingle g' read' place' rest := by
  have hnext := place.next_of_not_isBreak hbreak
  by_cases hquote : c = '\''
  · refine ⟨{}, '\'' :: g.onto read, (place.next '\'').next '\'',
      ⟨.ofBlanks [], rfl, fun hne => absurd rfl hne, ?_⟩, ⟨rfl, Nat.succ_pos _⟩, ?_⟩
    · rw [hquote]
      rfl
    · rw [if_pos hquote]
      show scanSingle g read place ('\'' :: '\'' :: rest) = _
      rw [scanSingle]
  · rw [if_neg hquote, List.singleton_append, scanSingle_cons hquote, hnext]
    by_cases hblank : c = ' '
    · have hunbroken : g.broken = false := by
        cases hbroken : g.broken with
        | false => rfl
        | true => exact absurd hblank (hspace hbroken)
      have hbreaks : g.breaks = [] := by
        simpa [Gap.broken] using hunbroken
      have hpush : g.push c = { g with blanks := c :: g.blanks } := by
        simp [Gap.push, hbreak, hunbroken, hgap.unjoined]
      have hfaithful : (g.push c).Faithful := by
        rw [hpush]
        exact ⟨hgap.unjoined, .inr hbreaks, hgap.separators⟩
      refine ⟨g.push c, read, ⟨place.line, place.column + 1⟩,
        ⟨hfaithful, ?_, fun _ => hblank, ?_⟩, ⟨rfl, Nat.succ_pos _⟩, ?_⟩
      · simp [hpush, Gap.broken, hbreaks]
      · rw [hfaithful.onto_eq, hgap.onto_eq]
        simp [hpush]
      · rw [if_pos (by simp [hblank, isBlank_space])]
    · have hword : isBlank c = false := by
        simp [isBlank_eq_of_isPrintable hprintable, hblank]
      refine ⟨{}, c :: g.onto read, ⟨place.line, place.column + 1⟩,
        ⟨.ofBlanks [], rfl, fun hne => absurd rfl hne, rfl⟩, ⟨rfl, Nat.succ_pos _⟩, ?_⟩
      rw [if_neg (by simp [hword, hbreak]), if_neg (by simp [Nat.ne_of_gt hplace])]

/-- A break extends the gap, which has no blanks in front of it. -/
theorem push_break (hgap : g.Faithful) (h : Fits g (c :: rest)) (hbreak : isBreak c = true) :
    (g.push c).Faithful ∧ (g.push c).broken = true ∧ (g.push c).blanks = []
      ∧ ∀ read, (g.push c).onto read = c :: g.onto read := by
  have hblanks : g.blanks = [] := by
    cases hbs : g.blanks with
    | nil => rfl
    | cons b bs =>
        have hnot := h.unended (by simp [hbs]) c rfl
        rw [hbreak] at hnot
        cases hnot
  have hpush : g.push c = { g with blanks := [], breaks := c :: g.breaks } := by
    simp [Gap.push, hbreak]
  have hfaithful : (g.push c).Faithful := by
    rw [hpush]
    refine ⟨hgap.unjoined, .inl rfl, fun d hd => ?_⟩
    rcases List.mem_cons.1 hd with rfl | hd
    · exact h.unwrapped d List.mem_cons_self
    · exact hgap.separators d hd
  refine ⟨hfaithful, by simp [hpush, Gap.broken], by rw [hpush], fun read => ?_⟩
  rw [hfaithful.onto_eq, hgap.onto_eq, hblanks]
  simp [hpush]

/-- A text printed between single quotes is read back from between
them. -/
theorem scanSingle_single {text : List Char} (hgap : g.Faithful) (h : Fits g text)
    (read : List Char) (place : Place) (hplace : g.broken = false → 0 < place.column)
    {indent : Nat} (hindent : 0 < indent) (behind : List Char)
    (hbehind : behind.head? ≠ some '\'') :
    ∃ last : Place, place.line ≤ last.line ∧
      scanSingle g read place (single indent g.broken text ++ '\'' :: behind)
        = some ((g.onto read).reverse ++ text, ⟨last, behind⟩) := by
  induction text generalizing g read place with
  | nil =>
      obtain ⟨p, hline, hcolumn, hscan⟩ :=
        scanSingle_indentation hplace hindent read ('\'' :: behind)
      refine ⟨p.next '\'', Nat.le_of_eq hline.symm, ?_⟩
      rw [single, hscan, scanSingle_end hcolumn hbehind, List.append_nil]
  | cons c rest ih =>
      by_cases hbreak : isBreak c = true
      · obtain ⟨hfaithful, hbroken, hblanks, honto⟩ := push_break hgap h hbreak
        have htail : Fits (g.push c) rest :=
          h.tail (fun hne => absurd hblanks hne) fun _ => hbreak
        obtain ⟨last, hlast, hscan⟩ :=
          ih hfaithful htail read ⟨place.line + 1, 0⟩ fun hunbroken =>
            absurd (hbroken.symm.trans hunbroken) nofun
        have hquote : c ≠ '\'' := by
          intro hc
          rw [hc] at hbreak
          cases hbreak
        rw [hbroken, honto] at hscan
        refine ⟨last, Nat.le_of_succ_le hlast, ?_⟩
        rw [single, if_pos hbreak, List.cons_append, scanSingle_cons hquote,
          if_pos (by simp [hbreak]), Place.next_of_isBreak place hbreak, hscan]
        simp
      · rw [Bool.not_eq_true] at hbreak
        obtain ⟨p, hline, hcolumn, hindentation⟩ :=
          scanSingle_indentation hplace hindent read
            ((if c = '\'' then ['\'', '\''] else [c])
              ++ (single indent false rest ++ '\'' :: behind))
        obtain ⟨g', read', p', ⟨hfaithful, hbroken, hblanks, honto⟩, ⟨hline', hcolumn'⟩, hchar⟩ :=
          scanSingle_char hgap (h.printable c List.mem_cons_self) hbreak
            (fun hbroken => h.unbegun hbroken c rfl) hcolumn read
            (single indent false rest ++ '\'' :: behind)
        have htail : Fits g' rest :=
          h.tail hblanks fun hbroken' => absurd (hbroken.symm.trans hbroken') nofun
        obtain ⟨last, hlast, hscan⟩ := ih hfaithful htail read' p' fun _ => hcolumn'
        rw [hbroken, honto] at hscan
        rw [hline', hline] at hlast
        refine ⟨last, hlast, ?_⟩
        rw [single, if_neg (by simp [hbreak]), List.append_assoc, List.append_assoc,
          hindentation, hchar, hscan]
        simp

end Single

/-- What is printed between single quotes is a text of this kind. -/
theorem fits_of_fitsSingle {text : List Char} (hline : '\n' ∉ text)
    (h : Printer.fitsSingle text = true) : Fits {} text := by
  rw [Printer.fitsSingle, Bool.and_eq_true, Bool.not_eq_true', Bool.not_eq_true'] at h
  obtain ⟨hprintable, hbefore⟩ := of_needsEscapes h.1
  exact {
    printable := hprintable
    unwrapped := fun c hc hnl => hline (hnl ▸ hc)
    before := hbefore
    after := h.2
    unended := fun hne => absurd rfl hne
    unbegun := nofun }

-- ========================================================= double quotes

section Double

variable {read : List Char} {place : Place} {c : Char} {rest : List Char}

/-- The letter of a short escape stands for its character. -/
theorem escaped?_of_shortEscape? {letter : Char} (h : shortEscape? c = some letter) :
    escaped? letter = some c ∧ isBreak letter = false := by
  unfold shortEscape? at h
  split at h <;> first | cases h; decide | cases h

/-- A character without a short escape is none of those that would be
taken for something else. -/
theorem of_shortEscape?_eq_none (h : shortEscape? c = none) :
    isBreak c = false ∧ c ≠ '"' ∧ c ≠ '\\' := by
  have hne : ∀ d, shortEscape? d ≠ none → c ≠ d := fun d hd hcd => hd (hcd ▸ h)
  refine ⟨?_, hne '"' (by decide), hne '\\' (by decide)⟩
  simp [isBreak, hne '\n' (by decide), hne '\u2028' (by decide), hne '\u2029' (by decide)]

/-- The digits of a code are read to their last one. -/
theorem scanDouble_code {digits : List Char} (hne : digits ≠ []) {value n : Nat}
    (hdigits : Hex.read? value digits = some n) (hcode : ofCode? n = some c)
    (place : Place) :
    scanDouble (.code digits.length value) {} read place (digits ++ rest)
      = scanDouble .none {} (c :: read) (digits.foldl Place.next place) rest := by
  induction digits generalizing value place with
  | nil => exact absurd rfl hne
  | cons x digits ih =>
      rw [Hex.read?] at hdigits
      cases hx : Hex.digit? x with
      | none =>
          rw [hx] at hdigits
          cases hdigits
      | some d =>
          rw [hx] at hdigits
          simp only [List.cons_append, scanDouble, hx, List.length_cons, List.foldl_cons]
          cases digits with
          | nil =>
              obtain rfl : 16 * value + d = n := Option.some.inj hdigits
              rw [if_neg (by simp), hcode]
              rfl
          | cons y digits =>
              rw [if_pos (by simp), Nat.add_sub_cancel, ih (List.cons_ne_nil y digits) hdigits]

/-- A character is found by its code. -/
theorem ofCode?_toNat (c : Char) : ofCode? c.toNat = some c := by
  have hvalid : c.toNat.isValidChar := c.valid
  rw [ofCode?, if_pos hvalid, Char.ofNat_toNat]

/-- Digits are read within their line. -/
theorem foldl_next_digits {digits : List Char} (h : ∀ x ∈ digits, isBreak x = false)
    (place : Place) :
    digits.foldl Place.next place = ⟨place.line, place.column + digits.length⟩ := by
  induction digits generalizing place with
  | nil => rfl
  | cons x digits ih =>
      rw [List.foldl_cons, Place.next_of_not_isBreak place (h x List.mem_cons_self),
        ih fun y hy => h y (List.mem_cons_of_mem x hy)]
      simp [Nat.add_assoc, Nat.add_comm 1]

variable {blanks : List Char}

/-- A backslash begins an escape, and closes the gap. -/
theorem scanDouble_backslash (hplace : 0 < place.column) :
    scanDouble .none { blanks := blanks } read place ('\\' :: rest)
      = scanDouble .begun {} (blanks ++ read) ⟨place.line, place.column + 1⟩ rest := by
  rw [scanDouble, if_neg (by decide), if_neg (by simp [Nat.ne_of_gt hplace]),
    if_neg (by decide), if_pos rfl, (Gap.Faithful.ofBlanks blanks).onto_eq,
    Place.next_of_not_isBreak place (by decide), List.append_nil]

/-- An escape by a code of fixed width is read as the code's character. -/
theorem scanDouble_fixed (hplace : 0 < place.column) (letter : Char) (width : Nat)
    (hbreak : isBreak letter = false) (hletter : escaped? letter = none)
    (hwidth : codeWidth? letter = some (width + 1))
    (hcode : c.toNat < Nat.pow 16 (width + 1)) (blanks read rest : List Char) :
    ∃ place' : Place, (place'.line = place.line ∧ 0 < place'.column) ∧
      scanDouble .none { blanks := blanks } read place
          ('\\' :: letter :: (Hex.fixed Hex.upper (width + 1) c.toNat ++ rest))
        = scanDouble .none {} (c :: (blanks ++ read)) place' rest := by
  have hdigits := Hex.read?_fixed Hex.digit?_upper hcode 0
  rw [Nat.mul_zero, Nat.zero_add] at hdigits
  have hlength : (Hex.fixed Hex.upper (width + 1) c.toNat).length = width + 1 :=
    Hex.length_fixed _ _
  have hne : Hex.fixed Hex.upper (width + 1) c.toNat ≠ [] := by
    intro hnil
    rw [hnil] at hlength
    cases hlength
  have hunbroken : ∀ x ∈ Hex.fixed Hex.upper (width + 1) c.toNat, isBreak x = false := by
    have hdigit : ∀ d < 16, isBreak (Hex.upper d) = false := by decide
    intro x hx
    obtain ⟨d, hd, rfl⟩ := Hex.exists_of_mem_fixed hx
    exact hdigit d hd
  refine ⟨⟨place.line, place.column + 1 + 1 + (width + 1)⟩, ⟨rfl, Nat.succ_pos _⟩, ?_⟩
  calc scanDouble .none { blanks := blanks } read place
          ('\\' :: letter :: (Hex.fixed Hex.upper (width + 1) c.toNat ++ rest))
      = scanDouble (.code (Hex.fixed Hex.upper (width + 1) c.toNat).length 0) {}
          (blanks ++ read) ⟨place.line, place.column + 1 + 1⟩
          (Hex.fixed Hex.upper (width + 1) c.toNat ++ rest) := by
        rw [scanDouble_backslash hplace]
        simp [scanDouble, hbreak, hletter, hwidth, hlength, Place.next_of_not_isBreak _ hbreak]
    _ = _ := by
        rw [scanDouble_code hne hdigits (ofCode?_toNat c), foldl_next_digits hunbroken,
          hlength]

/-- A character is read back from the way it stands between double
quotes: by a short escape, by its code, or by itself, where a space is
added to the gap. -/
theorem scanDouble_escapeChar (hplace : 0 < place.column) (c : Char)
    (blanks read rest : List Char) :
    ∃ (blanks' read' : List Char) (place' : Place),
      (place'.line = place.line ∧ 0 < place'.column)
      ∧ blanks' ++ read' = c :: (blanks ++ read)
      ∧ scanDouble .none { blanks := blanks } read place (escapeChar c ++ rest)
          = scanDouble .none { blanks := blanks' } read' place' rest := by
  unfold escapeChar
  split
  next letter hshort =>
    obtain ⟨hescaped, hbreak⟩ := escaped?_of_shortEscape? hshort
    refine ⟨[], c :: (blanks ++ read), ⟨place.line, place.column + 1 + 1⟩,
      ⟨rfl, Nat.succ_pos _⟩, rfl, ?_⟩
    show scanDouble .none { blanks := blanks } read place ('\\' :: letter :: rest) = _
    rw [scanDouble_backslash hplace, scanDouble]
    simp [hbreak, hescaped, Place.next_of_not_isBreak _ hbreak]
  next hshort =>
    obtain ⟨hbreak, hquote, hbackslash⟩ := of_shortEscape?_eq_none hshort
    have hnext := place.next_of_not_isBreak hbreak
    split
    next hprintable =>
      rw [List.singleton_append, scanDouble, hnext]
      by_cases hspace : c = ' '
      · have hpush : Gap.push { blanks := blanks } c = { blanks := c :: blanks } := by
          simp [Gap.push, hbreak, Gap.broken]
        refine ⟨c :: blanks, read, ⟨place.line, place.column + 1⟩,
          ⟨rfl, Nat.succ_pos _⟩, rfl, ?_⟩
        rw [← hpush]
        simp [hspace, isBlank_space]
      · have hblank : isBlank c = false := by
          simp [isBlank_eq_of_isPrintable hprintable, hspace]
        refine ⟨[], c :: (blanks ++ read), ⟨place.line, place.column + 1⟩,
          ⟨rfl, Nat.succ_pos _⟩, rfl, ?_⟩
        simp [hblank, hbreak, hquote, hbackslash, Nat.ne_of_gt hplace,
          (Gap.Faithful.ofBlanks blanks).onto_eq]
    next =>
      dsimp only
      split
      next hsmall =>
        obtain ⟨place', hplace', hscan⟩ := scanDouble_fixed hplace 'x' 1 (by decide) rfl rfl
          (Nat.lt_succ_of_le hsmall) blanks read rest
        exact ⟨[], _, place', hplace', rfl, hscan⟩
      next =>
        split
        next hmiddle =>
          obtain ⟨place', hplace', hscan⟩ := scanDouble_fixed hplace 'u' 3 (by decide) rfl rfl
            (Nat.lt_succ_of_le hmiddle) blanks read rest
          exact ⟨[], _, place', hplace', rfl, hscan⟩
        next =>
          have hlarge : c.toNat < Nat.pow 16 8 :=
            Nat.lt_of_lt_of_eq c.val.toNat_lt (by decide)
          obtain ⟨place', hplace', hscan⟩ := scanDouble_fixed hplace 'U' 7 (by decide) rfl rfl
            hlarge blanks read rest
          exact ⟨[], _, place', hplace', rfl, hscan⟩

/-- A text printed between double quotes is read back from between
them. -/
theorem scanDouble_escaped (text : List Char) (place : Place) (hplace : 0 < place.column)
    (blanks read behind : List Char) :
    ∃ last : Place, last.line = place.line ∧
      scanDouble .none { blanks := blanks } read place
          (text.flatMap escapeChar ++ '"' :: behind)
        = some ((blanks ++ read).reverse ++ text, ⟨last, behind⟩) := by
  induction text generalizing blanks read place with
  | nil =>
      refine ⟨⟨place.line, place.column + 1⟩, rfl, ?_⟩
      rw [List.flatMap_nil, List.nil_append, scanDouble, if_neg (by decide),
        if_neg (by simp [Nat.ne_of_gt hplace]), if_pos rfl,
        (Gap.Faithful.ofBlanks blanks).onto_eq, List.append_nil, List.append_nil]
      rfl
  | cons c rest ih =>
      obtain ⟨blanks', read', place', ⟨hline, hcolumn⟩, hread, hscan⟩ :=
        scanDouble_escapeChar hplace c blanks read (rest.flatMap escapeChar ++ '"' :: behind)
      obtain ⟨last, hlast, hrest⟩ := ih place' hcolumn blanks' read'
      refine ⟨last, hlast.trans hline, ?_⟩
      rw [List.flatMap_cons, List.append_assoc, hscan, hrest, hread]
      simp

end Double

end Quoted

end ConsoleLinks.Yaml
