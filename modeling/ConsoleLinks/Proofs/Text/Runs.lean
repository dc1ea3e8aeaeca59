/-
Runs of a class of characters, as `takeWhile` and `dropWhile` cut them
off: the cut reassembles, and a run is cut where the class ends. The line
grammars are written with these two functions alone, so their proofs read
a line apart with the first half of this file and put one together with
the second.
-/
import ConsoleLinks.Text.Scan
import ConsoleLinks.Text.Blank

namespace ConsoleLinks.Text

variable {α : Type} {p : α → Bool}

-- =========================================================== taken apart

/-- What stops a run is outside its class. -/
theorem head_of_dropWhile_eq_cons {text rest : List α} {a : α}
    (h : text.dropWhile p = a :: rest) : p a = false := by
  induction text with
  | nil => cases h
  | cons b text ih =>
      cases hb : p b with
      | true =>
          rw [List.dropWhile_cons_of_pos hb] at h
          exact ih h
      | false =>
          rw [List.dropWhile_cons_of_neg (by simp [hb])] at h
          injection h with hba _
          rw [← hba]
          exact hb

/-- A run that something stops, with what follows it. -/
theorem eq_takeWhile_append_of_dropWhile {text rest : List α} {a : α}
    (h : text.dropWhile p = a :: rest) :
    text = text.takeWhile p ++ a :: rest := by
  rw [← h, List.takeWhile_append_dropWhile]

/-- A run of all but one character is stopped by that character. -/
theorem eq_append_of_dropWhile_ne {text rest : List Char} {mark c : Char}
    (h : text.dropWhile (· ≠ mark) = c :: rest) :
    text = text.takeWhile (· ≠ mark) ++ mark :: rest := by
  have hc := head_of_dropWhile_eq_cons h
  have hmark : c = mark := by simpa using hc
  rw [hmark] at h
  exact eq_takeWhile_append_of_dropWhile h

/-- White space at the end of a text, and the text in front of it. -/
theorem dropBlanksEnd_append (text : List Char) :
    dropBlanksEnd text ++ (text.reverse.takeWhile isBlank).reverse = text := by
  unfold dropBlanksEnd
  rw [← List.reverse_append, List.takeWhile_append_dropWhile,
    List.reverse_reverse]

-- ========================================================== put together

/-- What begins with something outside a class stops a run of it. -/
theorem boundary_cons {a : α} (ha : p a = false) (rest : List α) :
    ∀ b ∈ (a :: rest).head?, p b = false := by
  simpa using ha

/-- The same for a text that is outside the class as a whole. -/
theorem boundary_append {front : List α} (hne : front ≠ [])
    (hfront : ∀ a ∈ front, p a = false) (rest : List α) :
    ∀ b ∈ (front ++ rest).head?, p b = false := by
  obtain ⟨a, front, rfl⟩ := List.exists_cons_of_ne_nil hne
  exact boundary_cons (hfront a (List.mem_cons_self ..)) (front ++ rest)

/-- A run is taken whole when something outside its class follows. -/
theorem takeWhile_append_of_boundary {run rest : List α}
    (hrun : ∀ a ∈ run, p a = true) (hrest : ∀ a ∈ rest.head?, p a = false) :
    (run ++ rest).takeWhile p = run := by
  rw [List.takeWhile_append_of_pos hrun]
  cases rest with
  | nil => simp
  | cons a rest =>
      have ha := hrest a rfl
      rw [List.takeWhile_cons_of_neg (by simp [ha]), List.append_nil]

/-- A run reaches no further than something outside its class. -/
theorem takeWhile_append_cons_of_not (text : List α) {a : α} (ha : p a = false)
    (rest : List α) : (text ++ a :: rest).takeWhile p = text.takeWhile p := by
  induction text with
  | nil =>
      rw [List.nil_append, List.takeWhile_nil]
      exact List.takeWhile_cons_of_neg (by simp [ha])
  | cons b text ih =>
      rw [List.cons_append, List.takeWhile_cons, List.takeWhile_cons, ih]

/-- What follows a run is left when it begins outside the class. -/
theorem dropWhile_append_of_boundary {run rest : List α}
    (hrun : ∀ a ∈ run, p a = true) (hrest : ∀ a ∈ rest.head?, p a = false) :
    (run ++ rest).dropWhile p = rest := by
  rw [List.dropWhile_append_of_pos hrun]
  cases rest with
  | nil => rfl
  | cons a rest =>
      have ha := hrest a rfl
      rw [List.dropWhile_cons_of_neg (by simp [ha])]

/-- A text is cut in one way only where a run meets something outside its
class. -/
theorem append_inj_of_boundary {run run' rest rest' : List α}
    (hrun : ∀ a ∈ run, p a = true) (hrest : ∀ a ∈ rest.head?, p a = false)
    (hrun' : ∀ a ∈ run', p a = true) (hrest' : ∀ a ∈ rest'.head?, p a = false)
    (h : run ++ rest = run' ++ rest') : run = run' ∧ rest = rest' := by
  have htake := congrArg (List.takeWhile p) h
  have hdrop := congrArg (List.dropWhile p) h
  rw [takeWhile_append_of_boundary hrun hrest,
    takeWhile_append_of_boundary hrun' hrest'] at htake
  rw [dropWhile_append_of_boundary hrun hrest,
    dropWhile_append_of_boundary hrun' hrest'] at hdrop
  exact ⟨htake, hdrop⟩

/-- White space at the end is left out when something else stands in front
of it. -/
theorem dropBlanksEnd_append_of_boundary {front closing : List Char}
    (hclosing : ∀ c ∈ closing, isBlank c = true)
    (hfront : ∀ c ∈ front.getLast?, isBlank c = false) :
    dropBlanksEnd (front ++ closing) = front := by
  have hclosing' : ∀ c ∈ closing.reverse, isBlank c = true := fun c hc =>
    hclosing c (List.mem_reverse.1 hc)
  rw [← List.head?_reverse] at hfront
  rw [dropBlanksEnd, List.reverse_append,
    dropWhile_append_of_boundary hclosing' hfront, List.reverse_reverse]

/-- The last visible character of a text is the one with nothing but white
space behind it. -/
theorem getLast?_dropBlanksEnd {closing : List Char} {c : Char}
    (hc : isBlank c = false) (hclosing : ∀ d ∈ closing, isBlank d = true)
    (front : List Char) : (dropBlanksEnd (front ++ [c] ++ closing)).getLast? = some c := by
  have hlast : (front ++ [c]).getLast? = some c := List.getLast?_concat
  rw [dropBlanksEnd_append_of_boundary hclosing, hlast]
  rw [hlast]
  exact fun d hd => Option.some.inj hd ▸ hc

/-- White space more or less at the end makes no difference. -/
theorem dropBlanksEnd_append_blanks {closing : List Char}
    (hclosing : ∀ c ∈ closing, isBlank c = true) (text : List Char) :
    dropBlanksEnd (text ++ closing) = dropBlanksEnd text := by
  have hclosing' : ∀ c ∈ closing.reverse, isBlank c = true := fun c hc =>
    hclosing c (List.mem_reverse.1 hc)
  rw [dropBlanksEnd, List.reverse_append, List.dropWhile_append_of_pos hclosing',
    dropBlanksEnd]

/-- Nothing new stands in what is left of a text. -/
theorem mem_of_mem_dropBlanksEnd {text : List Char} {c : Char}
    (h : c ∈ dropBlanksEnd text) : c ∈ text := by
  rw [← dropBlanksEnd_append text]
  exact List.mem_append_left _ h

/-- A text is what is left of it, between the white space at its ends. -/
theorem exists_eq_append_trim (text : List Char) :
    ∃ indent closing, text = indent ++ (trim text ++ closing)
      ∧ (∀ c ∈ indent, isBlank c = true) ∧ ∀ c ∈ closing, isBlank c = true := by
  refine ⟨text.takeWhile isBlank, ((dropBlanks text).reverse.takeWhile isBlank).reverse,
    ?_, List.all_eq_true.1 List.all_takeWhile,
    fun c hc => List.all_eq_true.1 List.all_takeWhile c (List.mem_reverse.1 hc)⟩
  rw [trim, dropBlanksEnd_append, dropBlanks, List.takeWhile_append_dropWhile]

/-- A text in which something else than white space stands has something
left. -/
theorem trim_ne_nil {text : List Char} {c : Char} (hc : c ∈ text) (hblank : isBlank c = false) :
    trim text ≠ [] := by
  intro hnil
  obtain ⟨indent, closing, htext, hindent, hclosing⟩ := exists_eq_append_trim text
  rw [hnil, List.nil_append] at htext
  have hall : isBlank c = true := by
    rw [htext] at hc
    rcases List.mem_append.1 hc with hc | hc
    · exact hindent c hc
    · exact hclosing c hc
  rw [hblank] at hall
  cases hall

/-- White space at the ends is left out around a text that has none
there. -/
theorem trim_append {indent body closing : List Char}
    (hindent : ∀ c ∈ indent, isBlank c = true)
    (hclosing : ∀ c ∈ closing, isBlank c = true) (hne : body ≠ [])
    (hhead : ∀ c ∈ body.head?, isBlank c = false)
    (hlast : ∀ c ∈ body.getLast?, isBlank c = false) :
    trim (indent ++ (body ++ closing)) = body := by
  have hfront : ∀ c ∈ (body ++ closing).head?, isBlank c = false := by
    obtain ⟨c, body, rfl⟩ := List.exists_cons_of_ne_nil hne
    exact hhead
  rw [trim, dropBlanks, dropWhile_append_of_boundary hindent hfront,
    dropBlanksEnd_append_of_boundary hclosing hlast]

/-- What stands behind the last character that is no white space ends a
text with its trailing white space left out. -/
theorem dropBlanksEnd_append_of_last {front back : List Char} {last : Char}
    (h : dropBlanksEnd back = front ++ [last]) (before : List Char) :
    dropBlanksEnd (before ++ back) = before ++ (front ++ [last]) := by
  have hsplit := dropBlanksEnd_append back
  rw [h] at hsplit
  have hrev : back.reverse.dropWhile isBlank = last :: front.reverse := by
    have hrev := congrArg List.reverse h
    simpa [dropBlanksEnd] using hrev
  have hlast : isBlank last = false := head_of_dropWhile_eq_cons hrev
  unfold dropBlanksEnd
  rw [List.reverse_append, ← hsplit, List.reverse_append, List.reverse_reverse,
    List.append_assoc,
    dropWhile_append_of_boundary
      (fun a ha => List.all_eq_true.1 List.all_takeWhile a ha)
      (by simp [hlast])]
  simp

-- ================================================================== names

section Names

variable {opens continues : Char → Bool}

/-- A name begins with what opens names. -/
theorem isNameOf_cons {c : Char} {rest : List Char} :
    isNameOf opens continues (c :: rest) = true
      ↔ opens c = true ∧ ∀ d ∈ rest, continues d = true := by
  simp [isNameOf]

/-- Where what opens a name can go on in one, a name is a run of the
characters that names go on with. -/
theorem continues_of_mem_isNameOf (hopens : ∀ c, opens c = true → continues c = true)
    {name : List Char} (h : isNameOf opens continues name = true) :
    ∀ c ∈ name, continues c = true := by
  cases name with
  | nil => cases h
  | cons c rest =>
      obtain ⟨hc, hrest⟩ := isNameOf_cons.1 h
      exact List.forall_mem_cons.2 ⟨hopens c hc, hrest⟩

/-- So a character outside the class does not occur in a name. -/
theorem not_mem_of_isNameOf (hopens : ∀ c, opens c = true → continues c = true)
    {name : List Char} {mark : Char} (h : isNameOf opens continues name = true)
    (hmark : continues mark = false) : mark ∉ name := by
  intro hmem
  rw [continues_of_mem_isNameOf hopens h mark hmem] at hmark
  cases hmark

end Names

end ConsoleLinks.Text
