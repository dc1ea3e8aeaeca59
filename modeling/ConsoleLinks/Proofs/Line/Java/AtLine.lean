/-
The law of `at` lines: a line is taken apart into well-formed parts, and
well-formed parts are found again in the line they make up, so they are
its only ones (`AtLine.ofLine?_eq_some_iff`).

# Why the parts are found

White space ends where the word, the module part or the symbol begins.
The module part runs up to the last slash in front of the parenthesis:
the symbol holds none (`not_mem_of_isSymbol`), and the run of characters
that is searched for it stops at the parenthesis at the latest
(`modulePart_append`). Neither the symbol nor the source holds the
parenthesis that ends it.

What the tests for a packaging and for a source accept is said as well
(`isPackaging_iff`, `Source.ofText?_eq_position_iff`,
`Source.ofText?_eq_noPosition_iff`).

Consumed by the patterns of the grammar (`Patterns.lean`) and the law of
ambiguity (`Proofs/Line/Ambiguity.lean`).
-/
import Mathlib.Data.List.TakeWhile
import ConsoleLinks.Proofs.Line.Java.Names
import ConsoleLinks.Proofs.Line.Java.Parts
import ConsoleLinks.Proofs.Text.Pieces

namespace ConsoleLinks.Java

open Text

-- ============================================================= symbols

/-- What occurs in a method is a name character, or occurs in one of the
markers. -/
theorem of_mem_isMethod {method : List Char} (h : isMethod method = true)
    {c : Char} (hc : c ∈ method) :
    continuesName c = true ∨ c ∈ "<clinit>".toList := by
  simp only [isMethod, Bool.or_eq_true, Bool.and_eq_true, decide_eq_true_eq,
    List.all_eq_true] at h
  rcases h with (⟨-, hall⟩ | rfl) | rfl
  · exact .inl (hall c hc)
  · have hsub : "<init>".toList ⊆ "<clinit>".toList := by decide
    exact .inr (hsub hc)
  · exact .inr hc

/-- Names and a method are found again as the pieces between dots. -/
theorem pieces_names_method {names : List (List Char)} {method : List Char}
    (hnames : ∀ name ∈ names, isName name = true) (hmethod : isMethod method = true) :
    pieces '.' (ended '.' names ++ method) = names ++ [method] := by
  have hdot : ∀ name ∈ names, '.' ∉ name := fun name hname =>
    not_mem_of_isName (hnames name hname) (by decide)
  have hdot' : '.' ∉ method := by
    intro hmem
    have hc := of_mem_isMethod hmethod hmem
    revert hc
    decide
  exact pieces_ended_append hdot hdot'

/-- A symbol is names with dots behind them and a method. -/
theorem isSymbol_iff {symbol : List Char} :
    isSymbol symbol = true
      ↔ ∃ names method, symbol = ended '.' names ++ method ∧ names ≠ []
          ∧ (∀ name ∈ names, isName name = true) ∧ isMethod method = true := by
  constructor
  · intro h
    unfold isSymbol at h
    split at h
    next method first others hpieces =>
      simp only [Bool.and_eq_true, List.all_eq_true] at h
      have hjoined := ended_append_of_pieces
        ((List.reverse_eq_cons_iff.1 hpieces) : _ = (first :: others).reverse ++ [method])
      exact ⟨_, method, hjoined.symm, by simp,
        fun name hname => h.2 name (List.mem_reverse.1 hname), h.1⟩
    next => cases h
  · rintro ⟨names, method, rfl, hne, hnames, hmethod⟩
    obtain ⟨last, others, hreverse⟩ :=
      List.exists_cons_of_ne_nil (List.reverse_ne_nil_iff.2 hne)
    have hall : (last :: others).all isName = true := by
      rw [← hreverse, List.all_reverse]
      exact List.all_eq_true.2 hnames
    unfold isSymbol
    rw [pieces_names_method hnames hmethod, List.reverse_append, hreverse]
    simp only [List.reverse_singleton, List.singleton_append, hmethod, hall,
      Bool.and_self]

/-- What is neither a name character nor a dot nor in a marker does not
occur in a symbol. -/
theorem not_mem_of_isSymbol {symbol : List Char} (h : isSymbol symbol = true)
    {c : Char} (hname : continuesName c = false) (hdot : c ≠ '.')
    (hmarker : c ∉ "<clinit>".toList) : c ∉ symbol := by
  obtain ⟨names, method, rfl, -, hnames, hmethod⟩ := isSymbol_iff.1 h
  intro hmem
  rcases List.mem_append.1 hmem with hmem | hmem
  · rcases eq_or_exists_of_mem_ended hmem with heq | ⟨name, hin, hc⟩
    · exact hdot heq
    · exact not_mem_of_isName (hnames name hin) hname hc
  · rcases of_mem_isMethod hmethod hmem with hc | hc
    · rw [hname] at hc
      cases hc
    · exact hmarker hc

/-- A symbol begins like a name. -/
theorem exists_cons_of_isSymbol {symbol : List Char} (h : isSymbol symbol = true) :
    ∃ c rest, symbol = c :: rest ∧ opensName c = true := by
  obtain ⟨names, method, rfl, hne, hnames, -⟩ := isSymbol_iff.1 h
  obtain ⟨name, names, rfl⟩ := List.exists_cons_of_ne_nil hne
  have hname := hnames name (List.mem_cons_self ..)
  cases name with
  | nil => cases hname
  | cons c rest => exact ⟨c, _, rfl, (isNameOf_cons.1 hname).1⟩

-- ======================================================== module parts

/-- White space is no part of a module part. -/
theorem inModule_of_isBlank {c : Char} (h : isBlank c = true) :
    inModule c = false := by
  have hmarks : ['$', '.', '@', '-', '/'].all (!isBlank ·) = true := by decide
  have hne : ∀ mark ∈ ['$', '.', '@', '-', '/'], c ≠ mark := by
    rintro mark hmark rfl
    have hvisible := List.all_eq_true.1 hmarks c hmark
    rw [h] at hvisible
    cases hvisible
  simp only [List.forall_mem_cons] at hne
  simp [inModule, isWord_of_isBlank h, hne.1, hne.2.1, hne.2.2.1, hne.2.2.2.1,
    hne.2.2.2.2.1]

/-- A module part is found in front of a symbol and a parenthesis. -/
theorem modulePart_append {owner symbol : List Char} (howner : IsModulePart owner)
    (hsymbol : '/' ∉ symbol) (rest : List Char) :
    modulePart (owner ++ (symbol ++ '(' :: rest)) = owner := by
  have hrun : (owner ++ (symbol ++ '(' :: rest)).takeWhile inModule
      = owner ++ symbol.takeWhile inModule := by
    rw [List.takeWhile_append_of_pos howner.1,
      takeWhile_append_cons_of_not symbol (by decide)]
  have hslash : ∀ c ∈ (symbol.takeWhile inModule).reverse, decide (c ≠ '/') = true := by
    intro c hc
    refine decide_eq_true fun heq => hsymbol ?_
    rw [← heq]
    exact (List.takeWhile_sublist _).subset (List.mem_reverse.1 hc)
  have hend : ∀ c ∈ owner.reverse.head?, decide (c ≠ '/') = false := by
    rcases howner.2 with rfl | ⟨front, rfl⟩
    · simp
    · simp
  unfold modulePart
  rw [hrun, List.reverse_append, dropWhile_append_of_boundary hslash hend,
    List.reverse_reverse]

-- =========================================================== packaging

/-- How the name of an archive ends: the bracket closes, and only white
space is left. -/
theorem closes_iff {text : List Char} :
    (match text.dropWhile (· ≠ ']') with
      | _ :: behind => (dropBlanks behind).isEmpty
      | [] => false) = true
      ↔ ∃ inside closing, text = inside ++ ']' :: closing ∧ ']' ∉ inside
          ∧ ∀ c ∈ closing, isBlank c = true := by
  constructor
  · intro h
    split at h
    next c closing hmark =>
      refine ⟨_, closing, eq_append_of_dropWhile_ne hmark, fun hmem => ?_,
        List.dropWhile_eq_nil_iff.1 (List.isEmpty_iff.1 h)⟩
      have hother := List.all_eq_true.1 List.all_takeWhile _ hmem
      simp at hother
    next => cases h
  · rintro ⟨inside, closing, rfl, hinside, hclosing⟩
    have hstop : ∀ c ∈ inside, decide (c ≠ ']') = true := fun c hc =>
      decide_eq_true fun heq => hinside (heq ▸ hc)
    rw [dropWhile_append_of_boundary hstop (by simp)]
    exact List.isEmpty_iff.2 (List.dropWhile_eq_nil_iff.2 hclosing)

/-- What may follow the closing parenthesis is white space, or white space
in front of a bracket and more of it behind. -/
theorem isPackaging_iff {text : List Char} :
    isPackaging text = true
      ↔ (∀ c ∈ text, isBlank c = true)
        ∨ ∃ space tilde inside closing,
            text = space ++ (tilde ++ '[' :: (inside ++ ']' :: closing))
              ∧ space ≠ [] ∧ (∀ c ∈ space, isBlank c = true)
              ∧ (tilde = ['~'] ∨ tilde = []) ∧ ']' ∉ inside
              ∧ ∀ c ∈ closing, isBlank c = true := by
  unfold isPackaging
  simp only [Bool.or_eq_true, Bool.and_eq_true, List.isEmpty_iff, dropBlanks]
  refine or_congr List.dropWhile_eq_nil_iff ⟨?_, ?_⟩
  · rintro ⟨hhead, hbracket⟩
    have hspace := List.takeWhile_append_dropWhile (p := isBlank) (l := text)
    have hblank : ∀ c ∈ text.takeWhile isBlank, isBlank c = true :=
      List.all_eq_true.1 List.all_takeWhile
    have hne : text.takeWhile isBlank ≠ [] := by
      cases text with
      | nil => cases hhead
      | cons c rest =>
          have hc : isBlank c = true := hhead
          rw [List.takeWhile_cons_of_pos hc]
          exact List.cons_ne_nil _ _
    split at hbracket
    next opened hrest =>
      obtain ⟨inside, closing, rfl, hinside, hclosing⟩ := closes_iff.1 hbracket
      rw [hrest] at hspace
      exact ⟨_, ['~'], inside, closing, hspace.symm, hne, hblank, .inl rfl, hinside,
        hclosing⟩
    next opened hrest =>
      obtain ⟨inside, closing, rfl, hinside, hclosing⟩ := closes_iff.1 hbracket
      rw [hrest] at hspace
      exact ⟨_, [], inside, closing, hspace.symm, hne, hblank, .inr rfl, hinside,
        hclosing⟩
    next => cases hbracket
  · rintro ⟨space, tilde, inside, closing, rfl, hne, hspace, htilde, hinside, hclosing⟩
    have hcloses := closes_iff.2 ⟨inside, closing, rfl, hinside, hclosing⟩
    obtain ⟨c, space, rfl⟩ := List.exists_cons_of_ne_nil hne
    refine ⟨hspace c (List.mem_cons_self ..), ?_⟩
    rcases htilde with rfl | rfl
    · rw [dropWhile_append_of_boundary hspace (by simp; decide)]
      exact hcloses
    · rw [dropWhile_append_of_boundary hspace (by simp; decide)]
      exact hcloses

-- ============================================================= sources

/-- No mark of a place stands in the name of a file. -/
theorem not_mem_of_isFile {file : List Char} (h : isFile file = true) :
    ':' ∉ file ∧ ')' ∉ file := by
  have hchars := List.all_eq_true.1 (Bool.and_eq_true_iff.1 h).1
  refine ⟨fun hmem => ?_, fun hmem => ?_⟩
  · have hne := hchars _ hmem
    revert hne
    decide
  · have hne := hchars _ hmem
    revert hne
    decide

/-- A file and a number are read from between the parentheses exactly when
they stand there. -/
theorem Source.ofText?_eq_position_iff {text file number : List Char} :
    Source.ofText? text = some (.position file number)
      ↔ text = file ++ ':' :: number ∧ isFile file = true
          ∧ number ≠ [] ∧ ∀ c ∈ number, isDigit c = true := by
  constructor
  · intro h
    have htext := eq_of_ofText? h
    unfold Source.ofText? at h
    dsimp only at h
    split at h
    next => cases h
    next =>
      split at h
      next hfile =>
        split at h
        next => cases h
        next c rest hcolon =>
          split at h
          next hnumber =>
            injection h with h
            injection h with hfile' hnumber'
            subst hfile' hnumber'
            rw [Bool.and_eq_true, List.all_eq_true] at hnumber
            exact ⟨by simpa using htext, hfile, by simpa using hnumber.1, hnumber.2⟩
          next => cases h
      next => cases h
  · rintro ⟨rfl, hfile, hne, hdigits⟩
    have hphrase : ∀ phrase : List Char, ':' ∉ phrase → file ++ ':' :: number ≠ phrase := by
      rintro phrase hcolon rfl
      exact hcolon (List.mem_append_right _ (List.mem_cons_self ..))
    have hrun : ∀ c ∈ file, decide (c ≠ ':') = true := fun c hc =>
      decide_eq_true fun heq => (not_mem_of_isFile hfile).1 (heq ▸ hc)
    have hnumber : (!number.isEmpty && number.all isDigit) = true := by
      simpa using ⟨hne, hdigits⟩
    unfold Source.ofText?
    rw [takeWhile_append_of_boundary hrun (by simp),
      dropWhile_append_of_boundary hrun (by simp)]
    simp only [hphrase _ (by decide : ':' ∉ "Native Method".toList),
      hphrase _ (by decide : ':' ∉ "Unknown Source".toList), decide_false, Bool.or_self,
      Bool.false_eq_true, if_false, hfile, if_true, hnumber]

/-- What is read as a source without a position. -/
theorem Source.ofText?_eq_noPosition_iff {text : List Char} :
    Source.ofText? text = some .noPosition
      ↔ text = "Native Method".toList ∨ text = "Unknown Source".toList
          ∨ isFile text = true := by
  rw [← or_assoc, ← decide_eq_true_iff (p := text = "Native Method".toList),
    ← decide_eq_true_iff (p := text = "Unknown Source".toList), ← Bool.or_eq_true]
  unfold Source.ofText?
  dsimp only
  split
  next hphrase => simp only [hphrase, true_or]
  next hphrase =>
    simp only [hphrase, Bool.false_eq_true, false_or]
    constructor
    · intro h
      split at h
      next hfile =>
        split at h
        next hcolon =>
          have hall := List.takeWhile_append_dropWhile (p := (· ≠ ':')) (l := text)
          rw [hcolon, List.append_nil] at hall
          rw [← hall]
          exact hfile
        next => split at h <;> cases h
      next => cases h
    · intro hfile
      have hrun : ∀ c ∈ text, decide (c ≠ ':') = true := fun c hc =>
        decide_eq_true fun heq => (not_mem_of_isFile hfile).1 (heq ▸ hc)
      have htake := List.takeWhile_eq_self_iff.2 hrun
      have hdrop := List.dropWhile_eq_nil_iff.2 hrun
      rw [htake, hdrop, if_pos hfile]

/-- No parenthesis closes inside a source. -/
theorem not_mem_of_ofText? {text : List Char} {source : Source}
    (h : Source.ofText? text = some source) : ')' ∉ text := by
  cases source with
  | noPosition =>
      rcases Source.ofText?_eq_noPosition_iff.1 h with rfl | rfl | hfile
      · decide
      · decide
      · exact (not_mem_of_isFile hfile).2
  | position file number =>
      obtain ⟨rfl, hfile, -, hdigits⟩ := Source.ofText?_eq_position_iff.1 h
      intro hmem
      rcases List.mem_append.1 hmem with hmem | hmem
      · exact (not_mem_of_isFile hfile).2 hmem
      · rcases List.mem_cons.1 hmem with heq | hmem
        · exact absurd heq (by decide)
        · have hdigit := hdigits _ hmem
          revert hdigit
          decide

-- ============================================================= the law

/-- Well-formed parts are found again. -/
theorem AtLine.ofLine?_text {l : AtLine} (h : l.WellFormed) :
    AtLine.ofLine? l.text = some l := by
  obtain ⟨opening, symbol, source, packaging⟩ := l
  obtain ⟨⟨indent, gap, owner, hopening, hindent, hne, hgap, howner⟩, hsymbol,
    hsource, hpackaging⟩ := h
  dsimp only at hopening hsymbol hsource hpackaging
  have hopen : '(' ∉ symbol :=
    not_mem_of_isSymbol hsymbol (by decide) (by decide) (by decide)
  have hslash : '/' ∉ symbol :=
    not_mem_of_isSymbol hsymbol (by decide) (by decide) (by decide)
  -- what follows each part begins outside that part's class
  have hline : (⟨opening, symbol, source, packaging⟩ : AtLine).text
      = indent ++ ("at".toList ++ (gap ++ (owner
          ++ (symbol ++ '(' :: (source ++ ')' :: packaging))))) := by
    simp [AtLine.text, hopening]
  have hword : ∀ rest : List Char, ∀ c ∈ ("at".toList ++ rest).head?,
      isBlank c = false := by
    intro rest c hc
    injection hc with hc
    rw [← hc]
    decide
  have hpath : ∀ c ∈ (owner ++ (symbol ++ '(' :: (source ++ ')' :: packaging))).head?,
      isBlank c = false := by
    intro c hc
    cases hblank : isBlank c with
    | false => rfl
    | true =>
        have hmodule := inModule_of_isBlank hblank
        cases owner with
        | nil =>
            obtain ⟨d, rest, rfl, hd⟩ := exists_cons_of_isSymbol hsymbol
            injection hc with hc
            rw [← hc] at hblank
            have hname := continuesName_of_opensName hd
            rw [continuesName_of_isBlank hblank] at hname
            cases hname
        | cons d owner =>
            injection hc with hc
            rw [← hc, howner.1 d (List.mem_cons_self ..)] at hmodule
            cases hmodule
  have hcall : ∀ c ∈ symbol, decide (c ≠ '(') = true := fun c hc =>
    decide_eq_true fun heq => hopen (heq ▸ hc)
  have hinside : ∀ c ∈ source, decide (c ≠ ')') = true := fun c hc =>
    decide_eq_true fun heq => hsource (heq ▸ hc)
  have hgap' : gap.isEmpty = false := by simpa using hne
  unfold AtLine.ofLine?
  dsimp only
  rw [hline, dropWhile_append_of_boundary hindent (hword _),
    takeWhile_append_of_boundary hindent (hword _), afterWord?_append]
  dsimp only
  rw [dropWhile_append_of_boundary hgap hpath,
    takeWhile_append_of_boundary hgap hpath, modulePart_append howner hslash,
    List.drop_left, dropWhile_append_of_boundary hcall (by simp),
    takeWhile_append_of_boundary hcall (by simp)]
  dsimp only
  rw [dropWhile_append_of_boundary hinside (by simp),
    takeWhile_append_of_boundary hinside (by simp)]
  simp only [hgap', hsymbol, hpackaging, Bool.not_false, Bool.and_self, if_true,
    hopening]

/-- The parts of an `at` line are its only ones. -/
theorem AtLine.ofLine?_eq_some_iff {line : List Char} {l : AtLine} :
    AtLine.ofLine? line = some l ↔ l.text = line ∧ l.WellFormed := by
  refine ⟨wellFormed_of_ofLine?, ?_⟩
  rintro ⟨rfl, hform⟩
  exact ofLine?_text hform

end ConsoleLinks.Java
