/-
Single tokens of a printed document, each a step from layout to layout:

- a key with its colon (`leads_key`) and the sign of an item
  (`leads_dash`), which begin a block where they stand inside the last;
- a scalar in each of its styles (`leads_scalar`), with the line break
  behind it;
- empty brackets (`leads_brackets`).

A scalar is read on behind its last line, to the column of the next
token. Behind the sign of an item it may be a key, so it is remembered as
one, which the line break undoes.

Consumed by the tokens of a tree (`Proofs/Yaml/Tokens.lean`).
-/
import ConsoleLinks.Proofs.Yaml.Layout
import ConsoleLinks.Proofs.Yaml.Printed
import ConsoleLinks.Proofs.Yaml.Scalar.Block
import ConsoleLinks.Proofs.Yaml.Scalar.Plain
import ConsoleLinks.Proofs.Yaml.Scalar.Quoted

namespace ConsoleLinks.Yaml

open Printer (isPrintable isIndicator beginsStructure spaces styleOf)

namespace Outline

variable {o : Outline} {keyAllowed : Bool} {place : Place} {text next : List Char} {k : Nat}

-- ============================================================ single tokens

/-- A token is read where it begins, inside of the innermost block. -/
theorem leads_of_token {c : Char} {rest : List Char} {l : Layout} (h : AtToken (c :: rest))
    (hmargin : o.margin ≤ place.column + 1)
    (htoken : (o.layout keyAllowed place (c :: rest)).token c rest = some l)
    (hlength : l.cursor.rest.length ≤ rest.length) :
    Layout.Leads (o.layout keyAllowed place (c :: rest)) l :=
  Layout.leads_of_token (Layout.ready?_eq_self h rfl hmargin) rfl htoken hlength

theorem isMark_of_ne {c d : Char} (h : d ≠ c) (rest : List Char) :
    isMark c (d :: rest) = false := by
  match rest with
  | [] => rfl
  | [_] => rfl
  | _ :: _ :: _ => simp [isMark, h]

/-- Three signs make a mark only where no gap follows the first. -/
theorem isMark_of_atGap {c : Char} (hblank : isBlank c = false) (hbreak : isBreak c = false)
    {rest : List Char} (hgap : atGap rest = true) : isMark c (c :: rest) = false := by
  match rest with
  | [] => rfl
  | [_] => rfl
  | e :: _ :: _ =>
      have hne : e ≠ c := by
        intro he
        rw [atGap, he, hblank, hbreak] at hgap
        cases hgap
      simp [isMark, hne]

/-- The sign of an item, which begins a block where it stands inside the
last. -/
theorem leads_dash (place : Place) (hmargin : o.margin ≤ place.column + 1) {rest : List Char}
    (hgap : atGap rest = true) :
    Layout.Leads (o.layout true place ('-' :: rest))
      (((o.opened place.column .blockSequenceStart).add [.blockEntry]).layout true
        ⟨place.line, place.column + 1⟩ rest) := by
  have hstart := isMark_of_atGap (c := '-') (by decide) (by decide) hgap
  have hend := isMark_of_ne (c := '.') (d := '-') (by decide) rest
  have hdispatch : (o.layout true place ('-' :: rest)).token '-' rest
      = (o.layout true place ('-' :: rest)).blockEntry := by
    simp [Layout.token, hstart, hend, hgap]
  have hentry : (o.layout true place ('-' :: rest)).blockEntry
      = some (((o.opened place.column .blockSequenceStart).add [.blockEntry]).layout true
          ⟨place.line, place.column + 1⟩ rest) := by
    by_cases hinside : place.column < o.margin
    · rw [opened_of_lt hinside]
      simp [Layout.blockEntry, layout, Layout.inFlow, Layout.indent, Layout.column, hinside,
        Layout.dropKey?, Layout.push, Layout.skip, Cursor.skipMany, Place.next, isBreak, add]
    · simp [Layout.blockEntry, layout, Layout.inFlow, Layout.indent, Layout.column, hinside,
        Layout.dropKey?, Layout.push, Layout.skip, Cursor.skipMany, Place.next, isBreak, add,
        opened, Layout.insert]
  exact leads_of_token (atToken_cons.2 (by decide)) hmargin (hdispatch.trans hentry)
    (Nat.le_refl _)

-- ========================================================== plain scalars

/-- The signs that could begin something else do not, where a text does not
begin with structure. -/
theorem of_beginsStructure {c : Char} {rest : List Char}
    (h : beginsStructure (c :: rest) = false) :
    isIndicator c = false
      ∧ ∀ d ∈ ['-', '?', ':'], (decide (c = d) && atGap rest) = false := by
  simp only [beginsStructure, Bool.or_eq_false_iff, Bool.and_eq_false_imp] at h
  refine ⟨h.1, fun d hd => ?_⟩
  by_cases hc : c = d
  · have hsign : (decide (c = '-') || decide (c = '?') || decide (c = ':')) = true := by
      simpa [hc, or_assoc] using hd
    simp [h.2 hsign]
  · simp [hc]

/-- Such a text can begin a plain scalar. -/
theorem beginsPlain_of_beginsStructure {c : Char} {rest : List Char}
    (hblank : isBlank c = false) (h : beginsStructure (c :: rest) = false) :
    Layout.beginsPlain false c rest = true := by
  obtain ⟨hindicator, hsigns⟩ := of_beginsStructure h
  have hgap : c = '-' ∨ c = '?' ∨ c = ':' → atGap rest = false := by
    intro hc
    have hsign := hsigns c (by simpa using hc)
    simpa using hsign
  simp [isIndicator] at hindicator
  by_cases hc : c = '-' ∨ c = '?' ∨ c = ':'
  · have hrest := hgap hc
    cases rest with
    | nil => cases hrest
    | cons d rest =>
        have hd : isBlank d = false := by
          simp only [atGap, Bool.or_eq_false_iff] at hrest
          exact hrest.1
        rcases hc with hc | hc | hc <;> simp [Layout.beginsPlain, hc, hd, hrest]
  · simp [Layout.beginsPlain, hblank, hindicator, not_or.1 hc, not_or.1 (not_or.1 hc).2]

/-- A plain scalar begins where nothing else does. -/
theorem token_plain {l : Layout} {c : Char} {rest : List Char} (hflow : l.inFlow = false)
    (hblank : isBlank c = false) (hstart : beginsStructure (c :: rest) = false)
    (hfront : l.column = 0 → c ≠ '-' ∧ c ≠ '.') : l.token c rest = l.plainScalar := by
  have hmarks : (decide (l.column = 0) && isMark '-' (c :: rest)) = false
      ∧ (decide (l.column = 0) && isMark '.' (c :: rest)) = false := by
    by_cases hcolumn : l.column = 0
    · obtain ⟨hdash, hpoint⟩ := hfront hcolumn
      simp [isMark_of_ne hdash, isMark_of_ne hpoint]
    · simp [hcolumn]
  have hplain := beginsPlain_of_beginsStructure hblank hstart
  obtain ⟨hindicator, hsigns⟩ := of_beginsStructure hstart
  have hdash := hsigns '-' (by decide)
  have hquestion := hsigns '?' (by decide)
  have hcolon := hsigns ':' (by decide)
  simp [isIndicator] at hindicator
  simp [Layout.token, hmarks, hindicator, hflow, hdash, hquestion, hcolon, hplain,
    -Bool.and_eq_true, -decide_eq_true_eq]

/-- The key that may begin at a place. -/
def savedKey (o : Outline) (keyAllowed : Bool) (place : Place) : Option PossibleKey :=
  if keyAllowed then some ⟨o.tokens.length, place, decide (o.margin = place.column + 1)⟩
  else none

theorem saveKey?_layout :
    (o.layout keyAllowed place text).saveKey?
      = some { o.layout keyAllowed place text with key := o.savedKey keyAllowed place } := by
  cases keyAllowed with
  | false => rfl
  | true =>
      simp [Layout.saveKey?, layout, Layout.dropKey?, Layout.keyHere, savedKey, Layout.inFlow]
      rfl

/-- The key is not given up within its line, as long as it can be one. -/
theorem refresh?_savedKey (keyAllowed : Bool) {p : Place} (hline : p.line ≤ place.line)
    (hcolumn : p.column ≤ place.column + Layout.longestKey) :
    Layout.refresh? p (o.savedKey keyAllowed place) = some (o.savedKey keyAllowed place) := by
  cases keyAllowed with
  | false => rfl
  | true =>
      have hlate : Layout.PossibleKey.isLate
          ⟨o.tokens.length, place, decide (o.margin = place.column + 1)⟩ p = false := by
        simp only [Layout.PossibleKey.isLate, Bool.or_eq_false_iff, decide_eq_false_iff_not]
        omega
      simp [savedKey, Layout.refresh?, hlate]

/-- A plain scalar that may be a key is read with the key remembered. -/
theorem plainScalar_layout (keyAllowed : Bool) {found : List Char} {broken : Bool} {cursor : Cursor}
    (hscan : Plain.scan false o.margin {} [] place text = some ((found, broken), cursor)) :
    (o.layout keyAllowed place text).plainScalar
      = some { (o.add [.scalar .plain (String.ofList found)]).layout broken cursor.place
          cursor.rest with key := o.savedKey keyAllowed place } := by
  rw [Layout.plainScalar, saveKey?_layout]
  simp only [Option.bind_eq_bind, Option.bind_some, layout, Layout.inFlow, List.isEmpty_nil,
    Bool.not_true, hscan]
  rfl

-- =================================================================== keys

/-- A colon in front of a gap announces a value. -/
theorem token_colon (l : Layout) {rest : List Char} (hgap : atGap rest = true) :
    l.token ':' rest = l.value := by
  simp [Layout.token, isMark_of_ne, hgap]

/-- The colon behind a scalar makes it a key, which begins a block where it
stands inside the last. The scalar may take up as much of the line as a
key can. -/
theorem leads_colon (place : Place) (style : ScalarStyle) (key : String) {width : Nat}
    (hwidth : width ≤ Layout.longestKey)
    (hmargin : o.margin ≤ place.column + 1) {rest : List Char} (hgap : atGap rest = true) :
    Layout.Leads
      { (o.add [.scalar style key]).layout false
          ⟨place.line, place.column + width⟩ (':' :: rest) with
        key := o.savedKey true place }
      (((o.opened place.column .blockMappingStart).add
        [.key, .scalar style key, .value]).layout false
          ⟨place.line, place.column + width + 1⟩ rest) := by
  have hkept : Layout.refresh? ⟨place.line, place.column + width⟩ (o.savedKey true place)
      = some (o.savedKey true place) :=
    refresh?_savedKey true (Nat.le_refl _) (Nat.add_le_add_left hwidth _)
  have hready := Layout.ready?_eq_self
    (l := { (o.add [.scalar style key]).layout false
      ⟨place.line, place.column + width⟩ (':' :: rest) with key := o.savedKey true place })
    (atToken_cons.2 (by decide))
    (by simp [Layout.dropLateKeys?, layout, hkept])
    (by
      show o.margin ≤ place.column + width + 1
      omega)
  apply Layout.leads_of_token hready rfl _ (Nat.le_refl _)
  rw [token_colon _ hgap]
  by_cases hinside : place.column < o.margin
  · rw [opened_of_lt hinside]
    simp [Layout.value, layout, savedKey, Layout.inFlow, Layout.indent, hinside, Layout.push,
      Layout.skip, Cursor.skipMany, Place.next, isBreak, add, Layout.insert]
  · have hbehind : o.tokens.length + 1 + 1 - o.tokens.length = 2 := by omega
    simp [Layout.value, layout, savedKey, Layout.inFlow, Layout.indent, hinside, Layout.push,
      Layout.skip, Cursor.skipMany, Place.next, isBreak, add, opened, Layout.insert, hbehind]

/-- A key with its colon, which begins a block where it stands inside the
last. -/
theorem leads_key (place : Place) {key : String} (hkey : Plain.isKey key = true)
    (hmargin : o.margin ≤ place.column + 1) {rest : List Char} (hgap : atGap rest = true) :
    Layout.Leads (o.layout true place (key.toList ++ ':' :: rest))
      (((o.opened place.column .blockMappingStart).add
        [.key, .scalar .plain key, .value]).layout false
          ⟨place.line, place.column + key.toList.length + 1⟩ rest) := by
  have hchars := Plain.isKeyChar_of_isKey hkey
  have hlength : key.toList.length ≤ Layout.longestKey := by
    simp only [Plain.isKey, Bool.and_eq_true, decide_eq_true_eq] at hkey
    exact hkey.2
  refine Layout.Leads.trans ?_ (leads_colon place .plain key hlength hmargin hgap)
  have hscan := Plain.scan_key o.margin (Plain.words_of_isKeyChar hchars) place hgap
  have hscalar := plainScalar_layout true hscan
  rw [String.ofList_toList] at hscalar
  cases hk : key.toList with
  | nil => simp [Plain.isKey, hk] at hkey
  | cons c cs =>
      rw [hk] at hscalar
      have hc := hchars c (by simp [hk])
      have hne := (Plain.isPrintable_of_isKeyChar hc).2
      have hfront := Plain.atToken_of_isKeyChar hc (cs ++ ':' :: rest)
      have htoken := token_plain (l := o.layout true place (c :: (cs ++ ':' :: rest))) rfl
        (atToken_cons.1 hfront).1 (Plain.beginsStructure_of_isKeyChar hc (cs ++ ':' :: rest))
        fun _ => ⟨hne '-' (by decide), hne '.' (by decide)⟩
      apply leads_of_token hfront hmargin (htoken.trans hscalar)
      simp [layout]

-- ================================================================ scalars

/-- A key that may have begun behind the start of the innermost block can
be given up. -/
theorem stale_savedKey (hinside : o.margin ≤ place.column) (keyAllowed : Bool) {p : Place}
    (hline : place.line ≤ p.line) : Stale p (o.savedKey keyAllowed place) := by
  cases keyAllowed with
  | false => exact fun k hk => by cases hk
  | true =>
      intro k hk
      rw [savedKey, if_pos rfl] at hk
      obtain rfl := Option.some.inj hk
      exact ⟨decide_eq_false (by omega), hline⟩

variable {s : String}

/-- A plain scalar, to the next token. -/
theorem leads_plain (keyAllowed : Bool) (hplain : Printer.fitsPlain s.toList = true)
    (hne : s.toList ≠ []) (hinside : o.margin ≤ place.column) (hk : k < o.margin)
    (h : AtToken next) :
    Layout.Leads (o.layout keyAllowed place (s.toList ++ '\n' :: (spaces k ++ next)))
      ((o.add [.scalar .plain s]).layout true ⟨place.line + 1, k⟩ next) := by
  have hwords := Plain.words_of_fitsPlain hplain
  have hscalar := plainScalar_layout keyAllowed (Plain.scan_line hwords place hk h)
  rw [String.ofList_toList] at hscalar
  have hstale := stale_savedKey hinside keyAllowed (Nat.le_refl place.line)
  refine Layout.Leads.trans ?_ (leads_stale hstale h)
  cases htext : s.toList with
  | nil => exact absurd htext hne
  | cons c rest =>
      rw [htext] at hscalar hplain
      obtain ⟨hfront, hstart⟩ := Plain.front_of_fitsPlain hplain
      obtain ⟨hblank, hbreak, hcomment, hmark⟩ := atToken_cons.1 hfront
      have hcolumn : place.column ≠ 0 := by omega
      have htoken := token_plain (l := o.layout keyAllowed place
          (c :: (rest ++ '\n' :: (spaces k ++ next)))) rfl hblank
        (Plain.beginsStructure_append hstart ('\n' :: (spaces k ++ next)))
        fun hzero => absurd hzero hcolumn
      apply leads_of_token (atToken_cons.2 ⟨hblank, hbreak, hcomment, hmark⟩)
        (Nat.le_succ_of_le hinside) (htoken.trans hscalar)
      simp [layout]
      omega

theorem token_single (l : Layout) (rest : List Char) :
    l.token '\'' rest = l.quotedScalar .singleQuoted := by
  simp [Layout.token, isMark_of_ne]

theorem token_double (l : Layout) (rest : List Char) :
    l.token '"' rest = l.quotedScalar .doubleQuoted := by
  simp [Layout.token, isMark_of_ne]

theorem token_literal {l : Layout} (rest : List Char) (hflow : l.inFlow = false) :
    l.token '|' rest = l.blockScalar .literal := by
  simp [Layout.token, isMark_of_ne, hflow]

/-- A quoted scalar is read with the place remembered where it may be a
key. -/
theorem quotedScalar_layout (keyAllowed : Bool) (quote : Char) {style : ScalarStyle}
    {text found : List Char} {cursor : Cursor}
    (hscan : (if style = .singleQuoted then Quoted.scanSingle {} [] (place.next quote) text
        else Quoted.scanDouble .none {} [] (place.next quote) text) = some (found, cursor)) :
    (o.layout keyAllowed place (quote :: text)).quotedScalar style
      = some { (o.add [.scalar style (String.ofList found)]).layout false cursor.place
          cursor.rest with key := o.savedKey keyAllowed place } := by
  rw [Layout.quotedScalar, saveKey?_layout]
  by_cases hsingle : style = .singleQuoted
  · rw [if_pos hsingle] at hscan
    simp only [Option.bind_eq_bind, Option.bind_some, layout, Cursor.skip, if_pos hsingle, hscan]
    simp [Layout.pushScalar, Layout.push, add]
  · rw [if_neg hsingle] at hscan
    simp only [Option.bind_eq_bind, Option.bind_some, layout, Cursor.skip, if_neg hsingle, hscan]
    simp [Layout.pushScalar, Layout.push, add]

/-- A quoted scalar, to the next token, by what is found between its
quotes. -/
theorem leads_quoted {style : ScalarStyle} {quote : Char} {front : List Char} {last : Place}
    (htoken : ∀ (l : Layout) rest, l.token quote rest = l.quotedScalar style)
    (hquote : AtToken [quote])
    (hscan : (if style = .singleQuoted then
        Quoted.scanSingle {} [] (place.next quote) (front ++ '\n' :: (spaces k ++ next))
      else Quoted.scanDouble .none {} [] (place.next quote) (front ++ '\n' :: (spaces k ++ next)))
        = some (s.toList, ⟨last, '\n' :: (spaces k ++ next)⟩))
    (hline : place.line ≤ last.line) (hinside : o.margin ≤ place.column) (h : AtToken next) :
    Layout.Leads
      (o.layout keyAllowed place (quote :: (front ++ '\n' :: (spaces k ++ next))))
      ((o.add [.scalar style s]).layout true ⟨last.line + 1, k⟩ next) := by
  have hscalar := quotedScalar_layout (o := o) keyAllowed quote hscan
  rw [String.ofList_toList] at hscalar
  refine Layout.Leads.trans ?_
    (leads_line last false (stale_savedKey hinside keyAllowed hline) h)
  apply leads_of_token (atToken_cons.2 (atToken_cons.1 hquote)) (Nat.le_succ_of_le hinside)
    ((htoken _ _).trans hscalar)
  simp [layout]

/-- A scalar between single quotes, to the next token. -/
theorem leads_single (hline : '\n' ∉ s.toList) (hsingle : Printer.fitsSingle s.toList = true)
    (hinside : o.margin ≤ place.column) (h : AtToken next) :
    ∃ line, Layout.Leads
      (o.layout keyAllowed place ('\'' :: (Printer.single (o.margin + 1) false s.toList ++ ['\'']
        ++ '\n' :: (spaces k ++ next))))
      ((o.add [.scalar .singleQuoted s]).layout true ⟨line, k⟩ next) := by
  obtain ⟨last, hlast, hscan⟩ := Quoted.scanSingle_single (Gap.Faithful.ofBlanks [])
    (Quoted.fits_of_fitsSingle hline hsingle) [] (place.next '\'') (fun _ => Nat.succ_pos _)
    (Nat.succ_pos o.margin) ('\n' :: (spaces k ++ next)) (by simp)
  refine ⟨last.line + 1, leads_quoted token_single (atToken_cons.2 (by decide)) ?_ hlast
    hinside h⟩
  rw [if_pos rfl, List.append_assoc]
  exact hscan

/-- A scalar between double quotes, to the next token. -/
theorem leads_double (s : String) (hinside : o.margin ≤ place.column) (h : AtToken next) :
    ∃ line, Layout.Leads
      (o.layout keyAllowed place ('"' :: (s.toList.flatMap Printer.escapeChar ++ ['"']
        ++ '\n' :: (spaces k ++ next))))
      ((o.add [.scalar .doubleQuoted s]).layout true ⟨line, k⟩ next) := by
  obtain ⟨last, hlast, hscan⟩ := Quoted.scanDouble_escaped s.toList
    (place.next '"') (Nat.succ_pos place.column) [] [] ('\n' :: (spaces k ++ next))
  refine ⟨last.line + 1, leads_quoted token_double (atToken_cons.2 (by decide)) ?_
    (Nat.le_of_eq hlast.symm) hinside h⟩
  rw [if_neg nofun, List.append_assoc]
  exact hscan

/-- A literal scalar, to the next token. -/
theorem leads_literal (hne : s.toList ≠ []) (hprintable : Printable s.toList)
    (hinside : o.margin ≤ place.column) (hk : k < o.margin) (h : AtToken next) :
    ∃ line, Layout.Leads
      (o.layout keyAllowed place ('|' :: (Printer.literalHints s.toList ++ '\n' ::
        (Printer.literalLines (o.margin + 1) true s.toList
          ++ (Block.lastBreak s.toList ++ (spaces k ++ next))))))
      ((o.add [.scalar .literal s]).layout true ⟨line, k⟩ next) := by
  obtain ⟨line, hread⟩ := Block.read_literal hne hprintable (Nat.zero_lt_of_lt hk)
    (place.next '|') (Nat.lt_succ_of_lt hk) h
  refine ⟨line, ?_⟩
  have hscalar : Layout.blockScalar .literal (o.layout keyAllowed place
        ('|' :: (Printer.literalHints s.toList ++ '\n' ::
        (Printer.literalLines (o.margin + 1) true s.toList
          ++ (Block.lastBreak s.toList ++ (spaces k ++ next))))))
      = some ((o.add [.scalar .literal s]).layout true ⟨line, k⟩ next) := by
    simp only [Layout.blockScalar, Layout.dropKey?, layout, Cursor.skip, Option.bind_eq_bind,
      Option.bind_some]
    rw [show decide (ScalarStyle.literal = .folded) = false from rfl, hread]
    simp [Layout.pushScalar, Layout.push, add]
  apply leads_of_token (atToken_cons.2 (by decide)) (Nat.le_succ_of_le hinside)
    ((token_literal _ rfl).trans hscalar)
  simp [layout]
  omega

-- =================================================== scalars of any style

/-- A text in the style it is written in, to the next token. -/
theorem leads_scalar (place : Place) (s : String) (hinside : o.margin ≤ place.column)
    (hk : k < o.margin) (h : AtToken next) :
    ∃ line, Layout.Leads
      (o.layout keyAllowed place (Printer.scalar (o.margin + 1) s ++ (spaces k ++ next)))
      ((o.add [.scalar (styleOf s) s]).layout true ⟨line, k⟩ next) := by
  have hstyle := of_styleOf s
  unfold Printer.scalar
  cases hs : styleOf s with
  | plain =>
      rw [hs] at hstyle
      refine ⟨place.line + 1, ?_⟩
      have hplain := leads_plain keyAllowed hstyle.1 hstyle.2 hinside hk h
      simpa using hplain
  | singleQuoted =>
      rw [hs] at hstyle
      obtain ⟨line, hsingle⟩ := leads_single hstyle.1 hstyle.2 hinside h
      refine ⟨line, ?_⟩
      simpa using hsingle
  | doubleQuoted =>
      obtain ⟨line, hdouble⟩ := leads_double s hinside h
      refine ⟨line, ?_⟩
      simpa using hdouble
  | literal =>
      rw [hs] at hstyle
      obtain ⟨line, hliteral⟩ := leads_literal hstyle.1 hstyle.2 hinside hk h
      refine ⟨line, ?_⟩
      simpa [Block.lastBreak] using hliteral
  | folded =>
      rw [hs] at hstyle
      exact hstyle.elim

/-- A truth value, to the next token. -/
theorem leads_truth (place : Place) (b : Bool) (hinside : o.margin ≤ place.column)
    (hk : k < o.margin) (h : AtToken next) :
    Layout.Leads (o.layout keyAllowed place (Printer.truth b ++ (spaces k ++ next)))
      ((o.add [.scalar .plain (if b then "true" else "false")]).layout true
        ⟨place.line + 1, k⟩ next) := by
  have hplain : Printer.fitsPlain (if b then "true" else "false").toList = true
      ∧ (if b then "true" else "false").toList ≠ [] := by
    cases b <;> decide
  have hleads := leads_plain keyAllowed hplain.1 hplain.2 hinside hk h
  simpa [Printer.truth] using hleads

-- =============================================================== brackets

theorem token_flowSequenceStart (l : Layout) (rest : List Char) :
    l.token '[' rest = l.openFlow .flowSequenceStart := by
  simp [Layout.token, isMark_of_ne]

theorem token_flowSequenceEnd (l : Layout) (rest : List Char) :
    l.token ']' rest = l.closeFlow .flowSequenceEnd := by
  simp [Layout.token, isMark_of_ne]

theorem token_flowMappingStart (l : Layout) (rest : List Char) :
    l.token '\x7b' rest = l.openFlow .flowMappingStart := by
  simp [Layout.token, isMark_of_ne]

theorem token_flowMappingEnd (l : Layout) (rest : List Char) :
    l.token '\x7d' rest = l.closeFlow .flowMappingEnd := by
  simp [Layout.token, isMark_of_ne]

/-- Empty brackets, to the next token. -/
theorem leads_brackets (place : Place) {opening closing : Char} {start finish : Token}
    (hopen : ∀ (l : Layout) rest, l.token opening rest = l.openFlow start)
    (hclose : ∀ (l : Layout) rest, l.token closing rest = l.closeFlow finish)
    (hopening : AtToken [opening]) (hclosing : AtToken [closing])
    (hinside : o.margin ≤ place.column) (h : AtToken next) :
    Layout.Leads
      (o.layout keyAllowed place (opening :: closing :: '\n' :: (spaces k ++ next)))
      ((o.add [start, finish]).layout true ⟨place.line + 1, k⟩ next) := by
  have hopening' := (atToken_cons.1 hopening).2.1
  have hclosing' := (atToken_cons.1 hclosing).2.1
  have hstale := stale_savedKey hinside keyAllowed
    (p := ⟨place.line, place.column + 1 + 1⟩) (Nat.le_refl place.line)
  have hkept : Layout.refresh? ⟨place.line, place.column + 1⟩ (o.savedKey keyAllowed place)
      = some (o.savedKey keyAllowed place) :=
    refresh?_savedKey keyAllowed (Nat.le_refl _) (Nat.add_le_add_left (by decide) _)
  -- the layout between the brackets
  let inside : Layout :=
    { o.layout true ⟨place.line, place.column + 1⟩ (closing :: '\n' :: (spaces k ++ next)) with
      tokens := start :: o.tokens
      count := o.tokens.length + 1
      outerKeys := [o.savedKey keyAllowed place] }
  have hfirst : (o.layout keyAllowed place
      (opening :: closing :: '\n' :: (spaces k ++ next))).openFlow start = some inside := by
    rw [Layout.openFlow, saveKey?_layout]
    simp [Layout.enter, Layout.push, Layout.skip, layout, inside, Cursor.skipMany,
      Place.next_of_not_isBreak _ hopening']
  have hsecond : inside.closeFlow finish
      = some { (o.add [start, finish]).layout false ⟨place.line, place.column + 1 + 1⟩
          ('\n' :: (spaces k ++ next)) with key := o.savedKey keyAllowed place } := by
    simp [Layout.closeFlow, Layout.dropKey?, Layout.leave, Layout.push, Layout.skip, layout,
      inside, Cursor.skipMany, Place.next_of_not_isBreak _ hclosing', add]
  have hkeys : inside.dropLateKeys? = some inside := by
    simp [Layout.dropLateKeys?, inside, layout, hkept]
    rfl
  refine Layout.Leads.trans (leads_of_token (atToken_cons.2 (atToken_cons.1 hopening))
    (Nat.le_succ_of_le hinside) ((hopen _ _).trans hfirst) (Nat.le_refl _)) ?_
  refine Layout.Leads.trans ?_
    (leads_line ⟨place.line, place.column + 1 + 1⟩ false hstale h)
  exact Layout.leads_of_token (Layout.ready?_eq_self (atToken_cons.2 (atToken_cons.1 hclosing))
    hkeys (by
      show o.margin ≤ place.column + 1 + 1
      omega)) rfl ((hclose _ _).trans hsecond) (Nat.le_refl _)

/-- A list without items. -/
theorem leads_emptyList (place : Place) (hinside : o.margin ≤ place.column)
    (h : AtToken next) :
    Layout.Leads (o.layout keyAllowed place ('[' :: ']' :: '\n' :: (spaces k ++ next)))
      ((o.add [.flowSequenceStart, .flowSequenceEnd]).layout true ⟨place.line + 1, k⟩ next) :=
  leads_brackets place token_flowSequenceStart token_flowSequenceEnd
    (atToken_cons.2 (by decide)) (atToken_cons.2 (by decide)) hinside h

/-- A mapping without entries. -/
theorem leads_emptyMapping (place : Place) (hinside : o.margin ≤ place.column)
    (h : AtToken next) :
    Layout.Leads
      (o.layout keyAllowed place ('\x7b' :: '\x7d' :: '\n' :: (spaces k ++ next)))
      ((o.add [.flowMappingStart, .flowMappingEnd]).layout true ⟨place.line + 1, k⟩ next) :=
  leads_brackets place token_flowMappingStart token_flowMappingEnd
    (atToken_cons.2 (by decide)) (atToken_cons.2 (by decide)) hinside h

end Outline

end ConsoleLinks.Yaml
