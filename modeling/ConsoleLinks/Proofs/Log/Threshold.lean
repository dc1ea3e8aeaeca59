/-
Which records reach the log: the threshold that a session is opened with,
and what it lets through of entries that come by any of the three routes.

# The threshold

The environment can name a level by its number. `NamesNumber` says which
texts do: white space around, perhaps a plus sign, and ASCII digits that
stand for the number, with as many zeros in front as one likes. Anything
else is as good as no setting, and then the configured level is mapped
(`Verbosity.inForce_eq_iff`).

# What is kept

The guards of every route come to one comparison (`Log.Entry.written_eq`), so
what a session holds is a selection among the records of all entries, in
their order (`Journal.holds_up_to_threshold`).
-/
import ConsoleLinks.Proofs.Log.Journal
import ConsoleLinks.Proofs.Text.Position
import ConsoleLinks.Proofs.Text.Runs
import ConsoleLinks.Proofs.Text.Classes

namespace ConsoleLinks

open Text

-- ========================================================== the threshold

namespace Verbosity

/-- A text that names a number: between white space, perhaps a plus sign,
and ASCII digits whose value it is. -/
def NamesNumber (setting : String) (n : Nat) : Prop :=
  ∃ indent sign digits closing,
    setting.toList = indent ++ (sign ++ digits ++ closing)
      ∧ (∀ c ∈ indent, isBlank c = true) ∧ (∀ c ∈ closing, isBlank c = true)
      ∧ (sign = [] ∨ sign = ['+'])
      ∧ digits ≠ [] ∧ (∀ c ∈ digits, AsciiDigit c)
      ∧ digits.foldl (fun value c => 10 * value + (c.toNat - '0'.toNat)) 0 = n

/-- The environment asks for a level by its number. -/
def Asked (setting : Option String) (v : Verbosity) : Prop :=
  ∃ text, setting = some text ∧ NamesNumber text v.rank

/-- Each level has a number of its own. -/
theorem ofRank?_eq_some_iff {n : Nat} {v : Verbosity} : ofRank? n = some v ↔ v.rank = n := by
  constructor
  · intro h
    unfold ofRank? at h
    simpa using List.find?_some h
  · intro h
    rw [← h]
    exact ofRank?_rank v

/-- A sign and digits have no white space at either end. -/
theorem trim_signed {indent sign digits closing : List Char}
    (hindent : ∀ c ∈ indent, isBlank c = true) (hclosing : ∀ c ∈ closing, isBlank c = true)
    (hsign : sign = [] ∨ sign = ['+']) (hne : digits ≠ [])
    (hdigits : ∀ c ∈ digits, c.isDigit = true) :
    trim (indent ++ (sign ++ digits ++ closing)) = sign ++ digits := by
  have hvisible : ∀ c ∈ sign ++ digits, isBlank c = false := by
    intro c hc
    rcases List.mem_append.1 hc with hc | hc
    · rcases hsign with hsign | hsign
      · rw [hsign] at hc
        cases hc
      · rw [hsign, List.mem_singleton] at hc
        rw [hc]
        decide
    · exact isBlank_of_isDigit (isDigit_of_ascii (hdigits c hc))
  apply trim_append hindent hclosing
  · intro h
    exact hne (List.append_eq_nil_iff.1 h).2
  · intro c hc
    exact hvisible c (List.mem_of_mem_head? hc)
  · intro c hc
    exact hvisible c (List.mem_of_mem_getLast? hc)

/-- A plus sign is left out in front of digits, which begin with none. -/
theorem unsigned_append {sign digits : List Char} (hsign : sign = [] ∨ sign = ['+'])
    (hdigits : ∀ c ∈ digits, c.isDigit = true) :
    (afterWord? ['+'] (sign ++ digits)).getD (sign ++ digits) = digits := by
  rcases hsign with hsign | hsign
  · subst hsign
    rw [List.nil_append]
    cases h : afterWord? ['+'] digits with
    | none => rfl
    | some rest =>
        have hplus : '+' ∈ digits := by
          rw [afterWord?_eq_some_iff.1 h]
          exact List.mem_cons_self ..
        have hno : '+'.isDigit = true := hdigits '+' hplus
        exact absurd hno (by decide)
  · subst hsign
    rw [afterWord?_append]
    rfl

/-- A setting asks for a level exactly when it names the level's number. -/
theorem ofSetting?_eq_some_iff {setting : String} {v : Verbosity} :
    ofSetting? setting = some v ↔ NamesNumber setting v.rank := by
  unfold ofSetting?
  simp only [Option.bind_eq_some_iff, Decimal.read?_eq_some_iff, ofRank?_eq_some_iff]
  constructor
  · intro ⟨n, ⟨hne, hdigits, hvalue⟩, hrank⟩
    subst hrank
    obtain ⟨indent, closing, hsetting, hindent, hclosing⟩ :=
      exists_eq_append_trim setting.toList
    have hsign : ∃ sign, (sign = [] ∨ sign = ['+']) ∧ trim setting.toList
        = sign ++ (afterWord? ['+'] (trim setting.toList)).getD (trim setting.toList) := by
      cases h : afterWord? ['+'] (trim setting.toList) with
      | none => exact ⟨[], Or.inl rfl, rfl⟩
      | some rest => exact ⟨['+'], Or.inr rfl, afterWord?_eq_some_iff.1 h⟩
    obtain ⟨sign, hsign, htrim⟩ := hsign
    refine ⟨indent, sign, _, closing, ?_, hindent, hclosing, hsign, hne,
      fun c hc => isDigit_iff.1 (hdigits c hc), hvalue⟩
    rw [← htrim]
    exact hsetting
  · intro ⟨indent, sign, digits, closing, hsetting, hindent, hclosing, hsign, hne, hdigits,
      hvalue⟩
    have hdigits : ∀ c ∈ digits, c.isDigit = true := fun c hc => isDigit_iff.2 (hdigits c hc)
    rw [hsetting, trim_signed hindent hclosing hsign hne hdigits,
      unsigned_append hsign hdigits]
    exact ⟨v.rank, ⟨hne, hdigits, hvalue⟩, rfl⟩

/-- The level in force is the one that the environment asks for; if it asks
for none, the configured level as the log file knows it. -/
theorem inForce_eq_iff {setting : Option String} {configured : LogLevel} {v : Verbosity} :
    inForce setting configured = v
      ↔ Asked setting v ∨ (∀ w, ¬ Asked setting w) ∧ v = ofLevel configured := by
  have hasked : ∀ w, Asked setting w ↔ setting.bind ofSetting? = some w := by
    intro w
    rw [Option.bind_eq_some_iff]
    unfold Asked
    simp only [ofSetting?_eq_some_iff]
  simp only [hasked]
  unfold inForce
  cases setting.bind ofSetting? with
  | none =>
      constructor
      · intro h
        exact Or.inr ⟨nofun, h.symm⟩
      · intro h
        rcases h with h | h
        · cases h
        · exact h.2.symm
  | some asked =>
      constructor
      · intro h
        exact Or.inl (congrArg some h)
      · intro h
        rcases h with h | h
        · injection h
        · exact absurd rfl (h.1 asked)

end Verbosity

-- ========================================================= what is kept

namespace Log

/-- The levels that records of a log file have, with their tags. -/
def tags : List (Verbosity × String) :=
  [(.error, "ERROR"), (.info, "INFO "), (.debug, "DEBUG"), (.trace, "TRACE")]

/-- Finished records are kept when they pass. -/
theorem kept_eq (threshold : Verbosity) (records : List Record) :
    kept threshold records = records.filter (passes threshold) := by
  rw [← written_formatted, written_eq, List.map_map]
  exact congrArg (List.filter _) (List.map_id records)

/-- What is written shows its level by the tag, and its category. -/
theorem text_of_passes {threshold : Verbosity} {r : Record}
    (h : passes threshold r = true) :
    ∃ tag, (r.level, tag) ∈ tags
      ∧ r.text = "[" ++ tag ++ "] [" ++ r.category ++ "] " ++ r.message := by
  refine ⟨Record.label r.level, ?_, rfl⟩
  have hlevel : r.level ≠ .off := (of_decide_eq_true h).2
  cases hr : r.level with
  | off => exact absurd hr hlevel
  | error => decide
  | info => decide
  | debug => decide
  | trace => decide

namespace Journal

/-- The log of a session: its threshold is the level in force. -/
def opened (setting : Option String) (configured : LogLevel) : Journal :=
  { threshold := Verbosity.inForce setting configured }

-- ================================================================ the law

/-- The threshold of a session is the level that the environment asks for by
number, or else the configured one; and whatever entries are offered to it,
by whatever routes, the log holds the records of just those whose level is
at most the threshold and not `off`, in their order, each tagged with its
level and category. -/
theorem holds_up_to_threshold (setting : Option String) (configured : LogLevel)
    (entries : List Entry) :
    let j := (opened setting configured).offerAll entries
    (∀ v, j.threshold = v ↔ Verbosity.Asked setting v
        ∨ (∀ w, ¬ Verbosity.Asked setting w) ∧ v = Verbosity.ofLevel configured)
      ∧ j.records = (entries.map Entry.record).filter
          (fun r => decide (r.level.rank ≤ j.threshold.rank ∧ r.level ≠ .off))
      ∧ ∀ r ∈ j.records, ∃ tag, (r.level, tag) ∈ tags
          ∧ r.text = "[" ++ tag ++ "] [" ++ r.category ++ "] " ++ r.message := by
  intro j
  have hj : j = _ := offerAll_eq (opened setting configured) entries
  have hthreshold : j.threshold = Verbosity.inForce setting configured := by
    rw [hj]
    rfl
  have hrecords : j.records = (entries.map Entry.record).filter (passes j.threshold) := by
    rw [hthreshold, ← written_eq, hj]
    rfl
  refine ⟨fun v => ?_, hrecords, fun r hr => ?_⟩
  · rw [hthreshold]
    exact Verbosity.inForce_eq_iff
  · rw [hrecords] at hr
    exact text_of_passes (List.mem_filter.1 hr).2

end Journal

end Log

end ConsoleLinks
