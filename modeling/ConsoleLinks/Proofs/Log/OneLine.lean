/-
Records that take one line of the log, whatever they tell of.

A record that quotes a line of input shows it between quotes, and a quoted
text holds no character that has no sign of its own: what would break the
line is written as an escape (`isUnseen_of_mem_quote`). The rest of such a
record is made of fixed words, ids and numbers.

Consumed by the story that the dispatcher's log tells
(`Proofs/Dispatcher/Story.lean`).
-/
import ConsoleLinks.Customizer
import ConsoleLinks.Proofs.Text.Hex
import ConsoleLinks.Proofs.Text.Pieces

namespace ConsoleLinks

open Text

-- ============================================================ quoted text

namespace Text.Quoted

/-- The characters that escapes are made of, digits apart. -/
def marks : List Char := ['\\', '"', '0', 't', 'n', 'r', 'u', '\x7b', '\x7d']

/-- A character between quotes: an escape of two characters, its number
between braces, or the character itself when it can be seen. -/
theorem escape_cases (c : Char) :
    (∃ mark ∈ marks, escape c = ['\\', mark])
      ∨ escape c = ['\\', 'u', '\x7b'] ++ Hex.digits c.toNat ++ ['\x7d']
      ∨ isUnseen c = false ∧ escape c = [c] := by
  unfold escape
  split
  next => exact Or.inl ⟨'0', by decide, rfl⟩
  split
  next => exact Or.inl ⟨'t', by decide, rfl⟩
  split
  next => exact Or.inl ⟨'n', by decide, rfl⟩
  split
  next => exact Or.inl ⟨'r', by decide, rfl⟩
  split
  next => exact Or.inl ⟨'"', by decide, rfl⟩
  split
  next => exact Or.inl ⟨'\\', by decide, rfl⟩
  split
  next => exact Or.inr (Or.inl rfl)
  next h => exact Or.inr (Or.inr ⟨by simpa using h, rfl⟩)

/-- Every character of a quoted text can be seen. -/
theorem isUnseen_of_mem_quote {text : String} {c : Char} (h : c ∈ (quote text).toList) :
    isUnseen c = false := by
  have hseen : (marks.all fun mark => !isUnseen mark) = true := by decide +kernel
  have hmarks : ∀ mark ∈ marks, isUnseen mark = false := by
    intro mark hmark
    simpa using List.all_eq_true.1 hseen mark hmark
  have hdigits : ∀ d < 16, isUnseen (Nat.digitChar d) = false := by decide +kernel
  have hescape : ∀ d, c ∈ escape d → isUnseen c = false := by
    intro d hc
    rcases escape_cases d with ⟨mark, hmark, hd⟩ | hd | ⟨hseen, hd⟩
    · rw [hd] at hc
      apply hmarks
      rcases List.mem_cons.1 hc with hc | hc
      · rw [hc]
        decide
      · rw [List.mem_singleton.1 hc]
        exact hmark
    · rw [hd] at hc
      rcases List.mem_append.1 hc with hc | hc
      · rcases List.mem_append.1 hc with hc | hc
        · apply hmarks
          have hall : ∀ mark ∈ ['\\', 'u', '\x7b'], mark ∈ marks := by simp [marks]
          exact hall c hc
        · obtain ⟨v, hv, hc⟩ := Hex.exists_of_mem_digits hc
          rw [hc]
          exact hdigits v hv
      · apply hmarks
        rw [List.mem_singleton.1 hc]
        decide
    · rw [hd, List.mem_singleton] at hc
      rw [hc]
      exact hseen
  unfold quote at h
  rw [String.toList_ofList] at h
  rcases List.mem_append.1 h with h | h
  · rcases List.mem_append.1 h with h | h
    · rw [List.mem_singleton.1 h]
      exact hmarks '"' (by decide)
    · obtain ⟨d, -, hc⟩ := List.mem_flatMap.1 h
      exact hescape d hc
  · rw [List.mem_singleton.1 h]
    exact hmarks '"' (by decide)

end Text.Quoted

-- =============================================================== one line

namespace Log

/-- A text without a line break. -/
def OneLine (text : String) : Prop := '\n' ∉ text.toList

instance (text : String) : Decidable (OneLine text) :=
  inferInstanceAs (Decidable ('\n' ∉ text.toList))

theorem OneLine.append {front back : String} (hfront : OneLine front)
    (hback : OneLine back) : OneLine (front ++ back) := by
  unfold OneLine
  rw [String.toList_append]
  intro h
  rcases List.mem_append.1 h with h | h
  · exact hfront h
  · exact hback h

/-- A quoted text stays on one line, whatever it quotes. -/
theorem oneLine_quote (text : String) : OneLine (Quoted.quote text) := by
  intro h
  have hbreak : isUnseen '\n' = true := by decide +kernel
  rw [Quoted.isUnseen_of_mem_quote h] at hbreak
  cases hbreak

theorem oneLine_number (n : Nat) : OneLine (toString n) := by
  intro h
  have hdigits : '\n' ∈ Nat.toDigits 10 n := by
    rw [Nat.toString_eq_repr, Nat.repr, String.toList_ofList] at h
    exact h
  have hdigit : '\n'.isDigit = true :=
    Nat.isDigit_of_mem_toDigits (by decide) (by decide) hdigits
  exact absurd hdigit (by decide)

/-- A record of one line is that line. -/
theorem Record.lines_eq_singleton {r : Record} (hcategory : OneLine r.category)
    (hmessage : OneLine r.message) : r.lines = [r.text] := by
  have hlabel : OneLine (Record.label r.level) := by
    cases r.level <;> decide
  have htext : OneLine r.text := by
    unfold Record.text
    exact ((((OneLine.append (by decide) hlabel).append (by decide)).append
      hcategory).append (by decide)).append hmessage
  unfold Record.lines
  rw [pieces_of_not_mem htext, List.map_singleton, String.ofList_toList]

end Log

-- ======================================================== what grammars say

/-- The faults that a grammar finds in a line of the right shape. -/
def Ecosystem.faults : List String :=
  ["java frame with unusable line number", ".NET frame with unusable capture",
   "diagnostic with unusable capture"]

/-- A grammar finds no others. -/
theorem Ecosystem.mem_faults_of_verdict {e : Ecosystem} {line fault : String}
    (h : e.verdict line = .unusable fault) : fault ∈ faults := by
  cases e with
  | java =>
      unfold Ecosystem.verdict Java.verdict at h
      dsimp only at h
      repeat' split at h
      all_goals cases h
      decide
  | csharp =>
      unfold Ecosystem.verdict CSharp.verdict at h
      dsimp only at h
      repeat' split at h
      all_goals cases h
      all_goals decide

/-- What a grammar leaves in the log: a record at the most detailed level,
under its own category and on one line. -/
theorem Ecosystem.of_mem_remarks {e : Ecosystem} {line : String} {r : Log.Record}
    (h : r ∈ e.remarks line) :
    r.level = .trace ∧ r.category = "GRAMMAR" ∧ Log.OneLine r.message := by
  unfold Ecosystem.remarks at h
  split at h
  next fault hverdict =>
    rw [List.mem_singleton] at h
    subst h
    have hfaults : ∀ f ∈ faults, Log.OneLine f := by decide
    exact ⟨rfl, rfl, ((hfaults fault (mem_faults_of_verdict hverdict)).append
      (by decide)).append (Log.oneLine_quote line)⟩
  next => cases h
  next => cases h

end ConsoleLinks
