/-
Reading a text from the front: a fixed word, a name, and the pieces between
separators. Runs of a class need nothing here, they are `takeWhile` and
`dropWhile`.

Text layer; the line grammars, the reader of command-line arguments and
the structured formats are written with these.
-/

namespace ConsoleLinks.Text

-- ============================================================== words

/-- What follows `word` when the text begins with it. -/
def afterWord? : (word text : List Char) → Option (List Char)
  | [], text => some text
  | _ :: _, [] => none
  | w :: ws, c :: cs => if w = c then afterWord? ws cs else none

/-- Whether the text begins with `word`. -/
def startsWith (word text : List Char) : Bool := (afterWord? word text).isSome

/-- What precedes `word` when the text ends with it. -/
def beforeWord? (word text : List Char) : Option (List Char) :=
  (afterWord? word.reverse text.reverse).map List.reverse

/-- Whether the text ends with `word`. -/
def endsWith (word text : List Char) : Bool := (beforeWord? word text).isSome

theorem afterWord?_append (word rest : List Char) :
    afterWord? word (word ++ rest) = some rest := by
  induction word with
  | nil => rfl
  | cons w ws ih => simp [afterWord?, ih]

theorem eq_append_of_afterWord? {word text rest : List Char}
    (h : afterWord? word text = some rest) : text = word ++ rest := by
  induction word generalizing text with
  | nil => simpa [afterWord?] using h
  | cons w ws ih =>
    cases text with
    | nil => simp [afterWord?] at h
    | cons c cs =>
      by_cases hc : w = c
      · subst hc
        simp only [afterWord?, if_true] at h
        simp [ih h]
      · simp [afterWord?, hc] at h

/-- A word is found at the front exactly when the text is that word and
the rest. -/
theorem afterWord?_eq_some_iff {word text rest : List Char} :
    afterWord? word text = some rest ↔ text = word ++ rest :=
  ⟨eq_append_of_afterWord?, fun h => h ▸ afterWord?_append word rest⟩

theorem beforeWord?_eq_some_iff {word text rest : List Char} :
    beforeWord? word text = some rest ↔ text = rest ++ word := by
  constructor
  · intro h
    obtain ⟨r, hr, rfl⟩ := Option.map_eq_some_iff.1 h
    have := congrArg List.reverse (eq_append_of_afterWord? hr)
    simpa using this
  · rintro rfl
    simp [beforeWord?, afterWord?_append]

-- ============================================================== names

/-- Whether a text is a name: a character of the one class, and behind it any
number of the other. -/
def isNameOf (opens continues : Char → Bool) : List Char → Bool
  | [] => false
  | c :: rest => opens c && rest.all continues

-- ============================================================= pieces

section Pieces

variable {α : Type} [DecidableEq α]

/-- Puts one element in front of the first piece, or opens a new first
piece at a separator. -/
def consPiece (separator a : α) : List (List α) → List (List α)
  | [] => if a = separator then [[], []] else [[a]]
  | piece :: rest =>
    if a = separator then [] :: piece :: rest else (a :: piece) :: rest

/-- The pieces between separators, in order; a text without a separator
is its own only piece. -/
def pieces (separator : α) (text : List α) : List (List α) :=
  text.foldr (consPiece separator) [[]]

theorem pieces_nil (separator : α) : pieces separator [] = [[]] := rfl

theorem pieces_cons (separator a : α) (text : List α) :
    pieces separator (a :: text) = consPiece separator a (pieces separator text) :=
  rfl

theorem pieces_ne_nil (separator : α) (text : List α) :
    pieces separator text ≠ [] := by
  cases text with
  | nil => simp [pieces_nil]
  | cons a text =>
    rw [pieces_cons]
    cases pieces separator text with
    | nil => by_cases h : a = separator <;> simp [consPiece, h]
    | cons p ps => by_cases h : a = separator <;> simp [consPiece, h]

end Pieces

end ConsoleLinks.Text
