/-
Reading a document as steps from layout to layout, outside of brackets.

A layout there is given by what has been read (`Outline`: the tokens, and
the margins of the blocks around the cursor), by whether a key may begin,
and by the place and the text ahead. That one layout leads to another
(`Layout.Leads`) means that reading from the one is reading from the
other, with as many steps less as there are tokens between, and no more
of them than characters.

Between two tokens nothing is read and still the layout changes, which
costs no step: what is read next is the same (`leads_of_ready`). A line
break gives up a key that was begun before it (`leads_line`,
`leads_stale`), and a block ends where the next token begins before its
margin (`leads_close`).

Consumed by the steps that read a token (`Proofs/Yaml/Steps.lean`).
-/
import ConsoleLinks.Proofs.Yaml.Characters
import ConsoleLinks.Yaml.Scan

namespace ConsoleLinks.Yaml

open Printer (spaces)

-- ======================================================== between tokens

/-- Where a token can begin nothing is passed over. -/
theorem skipToToken_of_atToken {text : List Char} (h : AtToken text)
    (inFlow keyAllowed : Bool) (place : Place) :
    skipToToken inFlow keyAllowed false place text = (keyAllowed, ⟨place, text⟩) := by
  cases text with
  | nil => rfl
  | cons c rest =>
      obtain ⟨hblank, hbreak, hcomment, hmark⟩ := atToken_cons.1 h
      obtain ⟨hspace, htab⟩ : c ≠ ' ' ∧ c ≠ '\t' := by simpa [isBlank] using hblank
      simp [skipToToken, hbreak, hcomment, hmark, hspace, htab]

/-- Spaces are passed over. -/
theorem skipToToken_spaces {k : Nat} {text : List Char} (inFlow keyAllowed : Bool)
    (place : Place) :
    skipToToken inFlow keyAllowed false place (spaces k ++ text)
      = skipToToken inFlow keyAllowed false ⟨place.line, place.column + k⟩ text := by
  induction k generalizing place with
  | zero => rfl
  | succ k ih =>
      rw [spaces_succ, List.cons_append, skipToToken, if_neg (by decide), if_neg (by simp),
        if_pos (by simp), Place.next_space, ih]
      simp only [Nat.add_assoc, Nat.add_comm 1]

-- =========================================================== from to

namespace Layout

/-- Reading from one layout is reading from the other, some steps
later. -/
def Leads (l l' : Layout) : Prop :=
  ∃ steps, steps + l'.cursor.rest.length ≤ l.cursor.rest.length
    ∧ ∀ fuel, tokensFrom (steps + fuel) l = tokensFrom fuel l'

theorem Leads.trans {l l' l'' : Layout} (h : Leads l l') (h' : Leads l' l'') :
    Leads l l'' := by
  obtain ⟨m, hm, hfirst⟩ := h
  obtain ⟨n, hn, hsecond⟩ := h'
  refine ⟨m + n, by omega, fun fuel => ?_⟩
  rw [Nat.add_assoc, hfirst, hsecond]

/-- The layout at which the next token is read. -/
def ready? (l : Layout) : Option Layout :=
  l.toToken.dropLateKeys?.map fun l => l.unindent (l.column + 1)

theorem tokensFrom_succ (fuel : Nat) (l : Layout) :
    tokensFrom (fuel + 1) l
      = match l.ready? with
        | none => none
        | some l =>
          match l.cursor.rest with
          | [] => (l.unindent 0).dropKey?.map (·.tokens.reverse)
          | c :: rest => (l.token c rest).bind (tokensFrom fuel) := by
  rw [tokensFrom, ready?]
  cases l.toToken.dropLateKeys? with
  | none => rfl
  | some l =>
      simp only [Option.map_some]
      cases (l.unindent (l.column + 1)).cursor.rest with
      | nil => rfl
      | cons c rest =>
          simp only
          cases (l.unindent (l.column + 1)).token c rest <;> rfl

/-- Layouts at which the same is read next. -/
theorem leads_of_ready {l l' : Layout} (h : l.ready? = l'.ready?)
    (hlength : l'.cursor.rest.length ≤ l.cursor.rest.length) : Leads l l' := by
  refine ⟨0, by omega, fun fuel => ?_⟩
  rw [Nat.zero_add]
  cases fuel with
  | zero => rfl
  | succ fuel => rw [tokensFrom_succ, tokensFrom_succ, h]

/-- One token. -/
theorem leads_of_token {l l' : Layout} {c : Char} {rest : List Char}
    (hready : l.ready? = some l) (hrest : l.cursor.rest = c :: rest)
    (htoken : l.token c rest = some l') (hlength : l'.cursor.rest.length ≤ rest.length) :
    Leads l l' := by
  refine ⟨1, ?_, fun fuel => ?_⟩
  · rw [hrest, List.length_cons]
    omega
  · rw [Nat.add_comm, tokensFrom_succ, hready]
    simp only [hrest, htoken, Option.bind_some]

/-- No block ends inside of its margin. -/
theorem unindent_of_le {l : Layout} {margin : Nat} (h : l.margin ≤ margin) :
    l.unindent margin = l := by
  obtain ⟨cursor, tokens, count, inner, margins, key, outerKeys, keyAllowed⟩ := l
  unfold unindent
  split
  next => rfl
  next =>
    cases margins with
    | nil => rfl
    | cons outer rest => rw [endBlocks, if_neg (Nat.not_lt.2 h)]

/-- Where a token can begin, nothing is given up and no block ends, the
token is read. -/
theorem ready?_eq_self {l : Layout} (hstart : AtToken l.cursor.rest)
    (hkeys : l.dropLateKeys? = some l) (hmargin : l.margin ≤ l.column + 1) :
    l.ready? = some l := by
  have htoken : l.toToken = l := by
    simp [toToken, skipToToken_of_atToken hstart]
  rw [ready?, htoken, hkeys, Option.map_some, unindent_of_le hmargin]

end Layout

-- ============================================================== outlines

/-- What has been read outside of brackets: the tokens, the last one
first, and the margins of the blocks around the cursor. -/
structure Outline where
  tokens : List Token
  margin : Nat
  margins : List Nat

namespace Outline

/-- The layout with an outline. No key has begun. -/
def layout (o : Outline) (keyAllowed : Bool) (place : Place) (text : List Char) : Layout where
  cursor := ⟨place, text⟩
  tokens := o.tokens
  count := o.tokens.length
  margin := o.margin
  margins := o.margins
  keyAllowed := keyAllowed

/-- The outline with further tokens. -/
def add (o : Outline) (tokens : List Token) : Outline :=
  { o with tokens := tokens.reverse ++ o.tokens }

/-- The outline with a block begun at a column, unless that lies outside of
the innermost block. -/
def opened (o : Outline) (column : Nat) (start : Token) : Outline :=
  if column < o.margin then o else ⟨start :: o.tokens, column + 1, o.margin :: o.margins⟩

@[simp] theorem margin_add (o : Outline) (tokens : List Token) :
    (o.add tokens).margin = o.margin := rfl

@[simp] theorem add_add (o : Outline) (front behind : List Token) :
    (o.add front).add behind = o.add (front ++ behind) := by
  simp [add]

/-- A block that is begun already is not begun again. -/
theorem opened_of_lt {o : Outline} {column : Nat} (h : column < o.margin) (start : Token) :
    o.opened column start = o := if_pos h

/-- That is so where the innermost block started at the column. -/
theorem opened_of_margin {o : Outline} {column : Nat} (h : o.margin = column + 1)
    (tokens : List Token) (start : Token) :
    (o.add tokens).opened column start = o.add tokens := by
  apply opened_of_lt
  rw [margin_add, h]
  exact Nat.lt_succ_self column

/-- At its margin or before it the innermost block starts where it
should. -/
theorem margin_opened {o : Outline} {column : Nat} (h : o.margin ≤ column + 1)
    (start : Token) : (o.opened column start).margin = column + 1 := by
  unfold opened
  split
  next hlt => omega
  next => rfl

variable {o : Outline} {keyAllowed : Bool} {place : Place} {text next : List Char} {k : Nat}

/-- What is read next where a token can begin. -/
theorem ready?_layout (h : AtToken text) :
    (o.layout keyAllowed place text).ready?
      = some ((o.layout keyAllowed place text).unindent (place.column + 1)) := by
  simp [Layout.ready?, Layout.toToken, layout, Layout.inFlow, skipToToken_of_atToken h,
    Layout.dropLateKeys?, Layout.refresh?, Layout.column]

/-- A key that was begun before the end of the line and can be given up. -/
def Stale (place : Place) (key : Option PossibleKey) : Prop :=
  ∀ k ∈ key, k.required = false ∧ k.place.line ≤ place.line

/-- Such a key is given up on the next line. -/
theorem Stale.refresh?_eq {key : Option PossibleKey} (h : Stale place key) (column : Nat) :
    Layout.refresh? ⟨place.line + 1, column⟩ key = some none := by
  cases key with
  | none => rfl
  | some k =>
      obtain ⟨hrequired, hline⟩ := h k rfl
      have hlate : Layout.PossibleKey.isLate k ⟨place.line + 1, column⟩ = true := by
        simp only [Layout.PossibleKey.isLate, Bool.or_eq_true, decide_eq_true_eq]
        exact .inl (Nat.lt_succ_of_le hline)
      rw [Layout.refresh?, if_pos hlate, if_neg (by simp [hrequired])]

/-- A line break leads to the next token, the next line being indented. A
key begun before it is given up. -/
theorem leads_line (place : Place) (keyAllowed : Bool) {key : Option PossibleKey}
    (hkey : Stale place key) (h : AtToken next) :
    Layout.Leads { o.layout keyAllowed place ('\n' :: (spaces k ++ next)) with key := key }
      (o.layout true ⟨place.line + 1, k⟩ next) := by
  apply Layout.leads_of_ready
  · have hskip : skipToToken false keyAllowed false place ('\n' :: (spaces k ++ next))
        = (true, ⟨⟨place.line + 1, k⟩, next⟩) := by
      rw [skipToToken, if_pos (by decide), Place.next_newline, skipToToken_spaces,
        skipToToken_of_atToken h]
      simp
    rw [ready?_layout h]
    simp [Layout.ready?, Layout.toToken, layout, Layout.inFlow, hskip,
      Layout.dropLateKeys?, hkey.refresh?_eq, Layout.column]
  · simp [layout]
    omega

/-- The same where no key has begun. -/
theorem leads_break (h : AtToken next) :
    Layout.Leads (o.layout keyAllowed place ('\n' :: (spaces k ++ next)))
      (o.layout true ⟨place.line + 1, k⟩ next) :=
  leads_line place keyAllowed (nofun : Stale place none) h

/-- A key begun on an earlier line is given up where the next token
begins. -/
theorem leads_stale {key : Option PossibleKey} (hkey : Stale place key) (h : AtToken next) :
    Layout.Leads { o.layout true ⟨place.line + 1, k⟩ next with key := key }
      (o.layout true ⟨place.line + 1, k⟩ next) := by
  apply Layout.leads_of_ready
  · rw [ready?_layout h]
    simp [Layout.ready?, Layout.toToken, layout, Layout.inFlow, skipToToken_of_atToken h,
      Layout.dropLateKeys?, hkey.refresh?_eq, Layout.column]
  · exact Nat.le_refl _

/-- A space within a line leads to what stands behind it. -/
theorem leads_space :
    Layout.Leads (o.layout keyAllowed place (' ' :: text))
      (o.layout keyAllowed ⟨place.line, place.column + 1⟩ text) := by
  apply Layout.leads_of_ready
  · have hskip : (o.layout keyAllowed place (' ' :: text)).toToken
        = (o.layout keyAllowed ⟨place.line, place.column + 1⟩ text).toToken := by
      unfold Layout.toToken
      rw [show (o.layout keyAllowed place (' ' :: text)).cursor.rest = spaces 1 ++ text from rfl,
        skipToToken_spaces]
      rfl
    unfold Layout.ready?
    rw [hskip]
  · simp [layout]

-- ================================================================= blocks

/-- Ending blocks replaces the margins. -/
theorem endBlocks_margins (margin : Nat) (l : Layout) (before margins : List Nat) :
    Layout.endBlocks margin { l with margins := before } margins
      = Layout.endBlocks margin l margins := by
  induction margins generalizing l before with
  | nil => rfl
  | cons outer rest ih =>
      simp only [Layout.endBlocks]
      split
      next => exact ih { l.push .blockEnd with margin := outer } before
      next => rfl

/-- A block ends where the next token begins in a column before it. -/
theorem leads_close {column : Nat} (start : Token) (tokens : List Token)
    (hopen : o.margin ≤ column) (hplace : place.column < column) (h : AtToken text) :
    Layout.Leads (((o.opened column start).add tokens).layout keyAllowed place text)
      ((o.add (start :: tokens ++ [.blockEnd])).layout keyAllowed place text) := by
  apply Layout.leads_of_ready
  · have hopened : (o.opened column start).add tokens
        = ⟨tokens.reverse ++ start :: o.tokens, column + 1, o.margin :: o.margins⟩ := by
      simp [opened, add, Nat.not_lt.2 hopen]
    rw [ready?_layout h, ready?_layout h, hopened]
    refine congrArg some ?_
    simp only [Layout.unindent, layout, Layout.inFlow, List.isEmpty_nil, Bool.not_true,
      Bool.false_eq_true, if_false, Layout.endBlocks]
    rw [if_pos (Nat.succ_lt_succ hplace), ← endBlocks_margins _ _ o.margins]
    simp [add, Layout.push]
  · exact Nat.le_refl _

end Outline

end ConsoleLinks.Yaml
