/-
Literal scalars, printed and read back.

The lines of a literal scalar stand in one column, two behind the block
around them, and the header names that column where the first line would
not show it. What the reader has at any point of the text is all of the
text so far, in three parts: whole lines, the last break, and the breaks
of empty lines behind it. `Lines.Hold` says this, and what else of the
parts is needed: within a line the other two are empty. One character
preserves it (`scan_char`), so the whole text does (`scan_lines`).

At the end the header's chomping says which of the parts are kept. The
printer chooses it by the last two characters, and in each case what is
kept is the text (`finish_eq`).

Consumed by the tokens of scalars (`Proofs/Yaml/Steps.lean`).
-/
import ConsoleLinks.Proofs.Yaml.Characters
import ConsoleLinks.Yaml.Scalar.Block

namespace ConsoleLinks.Yaml.Block

open Printer (isPrintable literalHints literalLines spaces)

-- ================================================================== header

/-- The digit of a header. -/
def digit (increment : Bool) : List Char := if increment then ['2'] else []

/-- The sign of a chomping. -/
def sign : Chomping → List Char
  | .strip => ['-']
  | .clip => []
  | .keep => ['+']

/-- Whether the first line does not show where lines start. -/
def hidesColumn (text : List Char) : Bool :=
  (text.head?.map fun c => decide (c = ' ') || isBreak c).getD false

/-- The chomping that keeps a text, given from its end. -/
def chompingOf : List Char → Chomping
  | [] => .strip
  | [c] => if isBreak c then .keep else .strip
  | c :: d :: _ => if isBreak c then if isBreak d then .keep else .clip else .strip

theorem literalHints_eq (text : List Char) :
    literalHints text = digit (hidesColumn text) ++ sign (chompingOf text.reverse) := by
  unfold literalHints
  congr 1
  · cases text with
    | nil => rfl
    | cons c rest => rfl
  · cases text.reverse with
    | nil => rfl
    | cons c before =>
        cases before with
        | nil =>
            simp only [chompingOf]
            split <;> rfl
        | cons d before =>
            simp only [chompingOf]
            split
            next => split <;> rfl
            next => rfl

/-- The header is read as it was meant. -/
theorem header?_hints (increment : Bool) (chomping : Chomping) (lines : List Char) :
    header? (digit increment ++ sign chomping ++ '\n' :: lines)
      = some (⟨chomping, if increment then some 2 else none⟩,
          (digit increment ++ sign chomping).length) := by
  cases increment with
  | true => cases chomping <;> rfl
  | false =>
      cases chomping with
      | strip => rfl
      | keep => rfl
      | clip => cases lines <;> rfl

-- =================================================================== lines

/-- What the reader has when it has read `done`, given from its end, and
`rest` is still to come: all of it, and within a line no breaks. The
column that lines start at is known, unless the first character will show
it. -/
structure Lines.Hold (indent : Nat) (done rest : List Char) (l : Lines) (inLine : Bool) :
    Prop where
  all : l.empty ++ l.ending ++ l.read = done
  inside : inLine = (done.head?.map (!isBreak ·)).getD false
  unbroken : inLine = true → l.empty = [] ∧ l.ending = []
  once : ∀ c d before, done = c :: d :: before → isBreak d = false → l.empty = []
  known : l.indent = some indent
    ∨ l = { indent := none } ∧ ∀ c ∈ rest.head?, c ≠ ' ' ∧ isBreak c = false

variable {margin indent : Nat} {done rest : List Char} {l : Lines} {inLine : Bool}

/-- Columns before the one that lines start at are passed over. -/
theorem Lines.Hold.isShallow (h : l.Hold indent done rest inLine) {column : Nat}
    (hcolumn : column < indent) : l.isShallow column = true := by
  rcases h.known with hknown | ⟨hfirst, -⟩
  · simp [Lines.isShallow, hknown, hcolumn]
  · simp [Lines.isShallow, hfirst]

/-- The column that lines start at is known once something has been
read. -/
theorem Lines.Hold.indent_eq (h : l.Hold indent done rest inLine) (hne : done ≠ []) :
    l.indent = some indent := by
  rcases h.known with hknown | ⟨hfirst, -⟩
  · exact hknown
  · have hall := h.all
    rw [hfirst] at hall
    exact absurd hall.symm hne

/-- Spaces in front of the column that lines start at are passed over. -/
theorem scan_spaces {n : Nat} {place : Place}
    (hshallow : ∀ i < place.column + n, l.isShallow i = true) (behind : List Char) :
    scan false margin l false place (spaces n ++ behind)
      = scan false margin l false ⟨place.line, place.column + n⟩ behind := by
  induction n generalizing place with
  | zero => rfl
  | succ n ih =>
      have hhere := hshallow place.column (Nat.lt_add_of_pos_right (Nat.succ_pos n))
      rw [spaces_succ, List.cons_append, scan, if_neg (by decide),
        if_pos (by simp [hhere]), Place.next_space, ih]
      · simp only [Nat.add_assoc, Nat.add_comm 1]
      · exact fun i hi => hshallow i (by simpa [Nat.add_assoc, Nat.add_comm 1] using hi)

/-- One character is added to what the reader has: a break ends a line or
is one of an empty line, any other character goes on with a line or begins
one, behind the indentation. -/
theorem scan_char {c : Char} (h : l.Hold indent done (c :: rest) inLine)
    (hprintable : isPrintable c = true) (hmargin : margin ≤ indent) (hindent : 0 < indent)
    {place : Place} (hplace : inLine = false → place.column = 0) (behind : List Char) :
    ∃ (l' : Lines) (place' : Place),
      l'.Hold indent (c :: done) rest (!isBreak c)
      ∧ ((!isBreak c) = false → place'.column = 0)
      ∧ scan false margin l inLine place (literalLines indent (!inLine) (c :: rest) ++ behind)
          = scan false margin l' (!isBreak c) place'
              (literalLines indent (isBreak c) rest ++ behind) := by
  have htab := ne_of_isPrintable (d := '\t') hprintable (by decide)
  have hall := h.all
  by_cases hbreak : isBreak c = true
  · have hnext := place.next_of_isBreak hbreak
    have hspace : c ≠ ' ' := by
      intro hc
      rw [hc] at hbreak
      cases hbreak
    have hknown : l.indent = some indent := by
      rcases h.known with hknown | ⟨-, hfirst⟩
      · exact hknown
      · have hnot := (hfirst c rfl).2
        rw [hbreak] at hnot
        cases hnot
    cases inLine with
    | true =>
        obtain ⟨hempty, hending⟩ := h.unbroken rfl
        rw [hempty, hending] at hall
        refine ⟨{ l with ending := [c] }, ⟨place.line + 1, 0⟩, ⟨?_, ?_, ?_, ?_, .inl hknown⟩,
          fun _ => rfl, ?_⟩
        · simpa [hempty] using hall
        · rfl
        · simp [hbreak]
        · exact fun _ _ _ _ _ => hempty
        · simp [literalLines, hbreak, scan, hnext]
    | false =>
        have hcolumn := hplace rfl
        refine ⟨{ l with empty := c :: l.empty, widest := max l.widest place.column },
          ⟨place.line + 1, 0⟩, ⟨?_, ?_, ?_, ?_, .inl hknown⟩, fun _ => rfl, ?_⟩
        · simpa using hall
        · rfl
        · simp [hbreak]
        · intro x d before hdone hd
          have hinside := h.inside
          rw [(List.cons.inj hdone).2] at hinside
          simp [hd] at hinside
        · simp [literalLines, hbreak, scan, hnext, hspace, htab]
  · rw [Bool.not_eq_true] at hbreak
    have hnext (p : Place) := p.next_of_not_isBreak hbreak
    cases inLine with
    | true =>
        obtain ⟨hempty, hending⟩ := h.unbroken rfl
        rw [hempty, hending] at hall
        have hknown : l.indent = some indent := by
          apply h.indent_eq
          intro hnil
          have hinside := h.inside
          rw [hnil] at hinside
          cases hinside
        refine ⟨{ l with read := c :: l.read }, place.next c,
          ⟨?_, ?_, fun _ => ⟨hempty, hending⟩, fun _ _ _ _ _ => hempty, .inl hknown⟩,
          ?_, ?_⟩
        · simpa [hempty, hending] using hall
        · rfl
        · simp [hbreak]
        · simp [literalLines, hbreak, scan]
    | false =>
        have hcolumn := hplace rfl
        have hshallow : ∀ i < place.column + indent, l.isShallow i = true := by
          rw [hcolumn, Nat.zero_add]
          exact fun i hi => h.isShallow hi
        have hhere : (c = ' ' && l.isShallow indent) = false := by
          rcases h.known with hknown | ⟨-, hfirst⟩
          · simp [Lines.isShallow, hknown]
          · simp [(hfirst c rfl).1]
        have hindentAt : l.indentAt margin indent = indent := by
          rcases h.known with hknown | ⟨hfirst, -⟩
          · simp [Lines.indentAt, hknown]
          · simp only [Lines.indentAt, hfirst, Option.getD_none]
            omega
        refine ⟨l.begin false indent c, ⟨place.line, indent + 1⟩,
          ⟨?_, ?_, fun _ => ⟨rfl, rfl⟩, fun _ _ _ _ _ => rfl, .inl rfl⟩, ?_, ?_⟩
        · simpa [Lines.begin, Lines.joined] using hall
        · rfl
        · simp [hbreak]
        · rw [literalLines, if_neg (by simp [hbreak]), Bool.not_false, if_pos rfl,
            List.append_assoc, scan_spaces hshallow, hcolumn, Nat.zero_add, List.cons_append,
            scan, if_neg (by simp), if_neg (by simpa using hhere), if_neg (by simp [htab]),
            if_neg (by simp [hbreak]), if_pos hindentAt.symm, hnext, hindentAt, hbreak,
            Bool.not_false]

/-- The lines of a text are read to its end. -/
theorem scan_lines {text : List Char} (h : l.Hold indent done text inLine)
    (hprintable : Printable text) (hmargin : margin ≤ indent)
    (hindent : 0 < indent) (place : Place) (hplace : inLine = false → place.column = 0)
    (behind : List Char) :
    ∃ (l' : Lines) (inLine' : Bool) (place' : Place),
      l'.Hold indent (text.reverse ++ done) [] inLine'
      ∧ (inLine' = false → place'.column = 0)
      ∧ scan false margin l inLine place (literalLines indent (!inLine) text ++ behind)
          = scan false margin l' inLine' place' behind := by
  induction text generalizing l inLine done place with
  | nil => exact ⟨l, inLine, place, h, hplace, rfl⟩
  | cons c rest ih =>
      obtain ⟨l', place', hhold, hplace', hscan⟩ :=
        scan_char h (hprintable c List.mem_cons_self) hmargin hindent hplace behind
      obtain ⟨l'', inLine', place'', hhold', hplace'', hscan'⟩ :=
        ih hhold (fun d hd => hprintable d (List.mem_cons_of_mem c hd)) place' hplace'
      rw [Bool.not_not] at hscan'
      refine ⟨l'', inLine', place'', ?_, hplace'', hscan.trans hscan'⟩
      simpa using hhold'

-- ================================================================= the end

/-- Behind the last line the reader stops where the next token begins. -/
theorem scan_next (hknown : l.indent = some indent) {k : Nat} (hk : k < indent)
    {next : List Char} (hnext : AtToken next) (line : Nat) :
    scan false margin l false ⟨line, 0⟩ (spaces k ++ next)
      = some (l, ⟨⟨line, k⟩, next⟩) := by
  have hshallow : ∀ i < 0 + k, l.isShallow i = true := by
    intro i hi
    simp only [Lines.isShallow, hknown, decide_eq_true_eq]
    omega
  rw [scan_spaces hshallow, Nat.zero_add]
  cases next with
  | nil => rfl
  | cons c rest =>
      obtain ⟨hblank, hbreak, -, -⟩ := atToken_cons.1 hnext
      obtain ⟨hspace, htab⟩ : c ≠ ' ' ∧ c ≠ '\t' := by simpa [isBlank] using hblank
      have hcolumn : k ≠ l.indentAt margin k := by
        simp only [Lines.indentAt, hknown, Option.getD_some]
        omega
      rw [scan, if_neg (by simp), if_neg (by simp [hspace]), if_neg (by simp [htab]),
        if_neg (by simp [hbreak]), if_neg hcolumn]

/-- What the chomping keeps of the lines of a text is the text. -/
theorem finish_eq (h : l.Hold indent done [] inLine) (hne : done ≠ []) :
    (if inLine then { l with ending := ['\n'] } else l).finish (chompingOf done)
      = done.reverse := by
  have hall := h.all
  have hinside := h.inside
  cases done with
  | nil => exact absurd rfl hne
  | cons c before =>
      have hin : inLine = !isBreak c := hinside
      by_cases hbreak : isBreak c = true
      · have hout : inLine = false := by simp [hin, hbreak]
        rw [hout, if_neg (by simp)]
        cases before with
        | nil => simp [chompingOf, hbreak, Lines.finish, ← hall]
        | cons d before =>
            by_cases hd : isBreak d = true
            · simp [chompingOf, hbreak, hd, Lines.finish, ← hall]
            · rw [Bool.not_eq_true] at hd
              have hempty := h.once c d before rfl hd
              rw [hempty] at hall
              simp [chompingOf, hbreak, hd, Lines.finish, ← hall]
      · rw [Bool.not_eq_true] at hbreak
        have hout : inLine = true := by simp [hin, hbreak]
        obtain ⟨hempty, hending⟩ := h.unbroken hout
        rw [hempty, hending] at hall
        have hread : l.read = c :: before := hall
        have hstrip : chompingOf (c :: before) = .strip := by
          cases before <;> simp [chompingOf, hbreak]
        rw [hstrip, hout, if_pos rfl]
        simp [Lines.finish, hread]

/-- The break that is printed behind a text that does not end with one. -/
def lastBreak (text : List Char) : List Char :=
  if (text.getLast?.map isBreak).getD false then [] else ['\n']

/-- Behind the text of a literal block the reader stops where the next
token begins, the last line being ended. -/
theorem scan_end (margin : Nat) {text : List Char} (h : l.Hold indent text.reverse [] inLine)
    (hne : text ≠ []) {place : Place}
    (hplace : inLine = false → place.column = 0)
    {k : Nat} (hk : k < indent) {next : List Char} (hnext : AtToken next) :
    ∃ line, scan false margin l inLine place (lastBreak text ++ (spaces k ++ next))
      = some (if inLine then { l with ending := ['\n'] } else l, ⟨⟨line, k⟩, next⟩) := by
  have hknown := h.indent_eq (by simpa using hne)
  have hlast : inLine = !(text.getLast?.map isBreak).getD false := by
    rw [h.inside, List.head?_reverse, List.getLast?_eq_some_getLast hne]
    rfl
  cases inLine with
  | true =>
      have hbreak : (text.getLast?.map isBreak).getD false = false := by
        simpa using hlast.symm
      refine ⟨place.line + 1, ?_⟩
      rw [lastBreak, if_neg (by simp [hbreak]), if_pos rfl, List.singleton_append, scan,
        if_pos rfl, if_pos (by decide), Place.next_newline]
      exact scan_next (l := { l with ending := ['\n'] }) hknown hk hnext _
  | false =>
      have hbreak : (text.getLast?.map isBreak).getD false = true := by
        simpa using hlast.symm
      refine ⟨place.line, ?_⟩
      have hstart : place = ⟨place.line, 0⟩ := by
        rw [← hplace rfl]
      rw [lastBreak, if_pos hbreak, if_neg (by simp), List.nil_append, hstart]
      exact scan_next hknown hk hnext _

-- ============================================================== the block

/-- Behind the header the first line begins. -/
theorem finishLine?_hints (place : Place) (hints lines : List Char) :
    ∃ start, (Cursor.skipMany ⟨place, hints ++ '\n' :: lines⟩ hints.length).finishLine?
      = some ⟨⟨start, 0⟩, lines⟩ := by
  rw [Cursor.skipMany_append]
  exact ⟨_, rfl⟩

/-- At the first line nothing has been read, and what the header says of
the column is right. -/
theorem hold_first (hmargin : 0 < margin) (text : List Char) :
    Lines.Hold (margin + 1) [] text
      { indent := (if hidesColumn text then some 2 else none).map (margin - 1 + ·) } false where
  all := rfl
  inside := rfl
  unbroken := nofun
  once := nofun
  known := by
    by_cases hhides : hidesColumn text = true
    · left
      simp only [hhides, if_true, Option.map_some, Option.some.injEq]
      omega
    · right
      refine ⟨by simp [hhides], fun c hc => ?_⟩
      rw [hidesColumn, hc] at hhides
      simpa using hhides

/-- A text printed as a literal block is read back from it, to the next
token, which begins in a column before that of the lines. -/
theorem read_literal {text : List Char} (hne : text ≠ [])
    (hprintable : Printable text) (hmargin : 0 < margin) (place : Place)
    {k : Nat} (hk : k < margin + 1) {next : List Char} (hnext : AtToken next) :
    ∃ line, read false margin ⟨place, literalHints text ++ '\n' ::
        (literalLines (margin + 1) true text ++ (lastBreak text ++ (spaces k ++ next)))⟩
      = some (text, ⟨⟨line, k⟩, next⟩) := by
  obtain ⟨start, hstart⟩ := finishLine?_hints place (literalHints text)
    (literalLines (margin + 1) true text ++ (lastBreak text ++ (spaces k ++ next)))
  obtain ⟨l, inLine, place', hhold, hplace, hlines⟩ :=
    scan_lines (hold_first hmargin text) hprintable (Nat.le_succ margin)
      (Nat.succ_pos margin) ⟨start, 0⟩ (fun _ => rfl) (lastBreak text ++ (spaces k ++ next))
  rw [List.append_nil] at hhold
  rw [Bool.not_false] at hlines
  obtain ⟨line, hend⟩ := scan_end margin hhold hne hplace hk hnext
  refine ⟨line, ?_⟩
  have hfinish := finish_eq hhold (by simpa using hne)
  rw [List.reverse_reverse] at hfinish
  unfold read
  rw [literalHints_eq] at hstart ⊢
  simp only [header?_hints, hstart, Option.bind_eq_bind, Option.bind_some]
  rw [hlines, hend]
  simp [hfinish]

end ConsoleLinks.Yaml.Block
