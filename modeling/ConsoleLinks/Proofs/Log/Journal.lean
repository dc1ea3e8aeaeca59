/-
A log that is written while something else goes on: a journal has a
threshold and the records written so far, and each entry offered to it
passes the guards of its route or is lost.

The three routes put different guards in front of an entry, in different
orders and some twice. They come to one: an entry is written exactly when
its level is at most the threshold and not `off` (`Entry.written_eq`). So a
journal at any threshold holds what the journal at the most detailed one
holds, less the records of higher levels (`written_eq_filter`).

Consumed by the dispatcher that writes its log (`Proofs/Dispatcher/Logged.lean`),
the program that does (`Proofs/Command/Logged.lean`) and the law about
thresholds (`Proofs/Log/Threshold.lean`).
-/
import ConsoleLinks.Log.Record

namespace ConsoleLinks.Log

-- ================================================================ routes

/-- The record that an entry is, whatever its route: a warning is an
error. -/
def Entry.record : Entry → Record
  | direct level category message | formatted level category message =>
    ⟨level, category, message⟩
  | forwarded severity category message => ⟨severity.verbosity, category, message⟩

/-- Whether a record is written at a threshold. -/
def passes (threshold : Verbosity) (r : Record) : Bool :=
  decide (r.level.rank ≤ threshold.rank ∧ r.level ≠ .off)

/-- On every route an entry is written exactly when its record passes, and
then it is that record. -/
theorem Entry.written_eq (threshold : Verbosity) (e : Entry) :
    e.written threshold = [e.record].filter (passes threshold) := by
  cases e with
  | direct level category message => cases threshold <;> cases level <;> rfl
  | formatted level category message => cases threshold <;> cases level <;> rfl
  | forwarded severity category message => cases threshold <;> cases severity <;> rfl

/-- The same of entries in a row. -/
theorem written_eq (threshold : Verbosity) (entries : List Entry) :
    entries.flatMap (Entry.written threshold)
      = (entries.map Entry.record).filter (passes threshold) := by
  induction entries with
  | nil => rfl
  | cons e rest ih =>
      rw [List.flatMap_cons, Entry.written_eq, ih, List.map_cons, ← List.filter_append]
      rfl

-- ============================================================= thresholds

/-- Whether a journal with the given threshold keeps a record. -/
def keeps (threshold : Verbosity) (r : Record) : Bool :=
  decide (r.level.rank ≤ threshold.rank)

/-- A record passes when it passes the most detailed threshold and its level
is low enough. -/
theorem passes_eq (threshold : Verbosity) (r : Record) :
    passes threshold r = (keeps threshold r && passes .trace r) := by
  obtain ⟨level, category, message⟩ := r
  cases threshold <;> cases level <;> rfl

/-- So what is written at a threshold is what is written at the most detailed
one, less the records of higher levels. -/
theorem written_eq_filter (threshold : Verbosity) (entries : List Entry) :
    entries.flatMap (Entry.written threshold)
      = (entries.flatMap (Entry.written .trace)).filter (keeps threshold) := by
  rw [written_eq, written_eq, List.filter_filter]
  exact congrArg (List.filter · _) (funext (passes_eq threshold))

/-- No record passes when logging is off. -/
theorem passes_off (r : Record) : passes .off r = false := by
  obtain ⟨level, category, message⟩ := r
  cases level <;> rfl

/-- So nothing is written then. -/
theorem written_off (entries : List Entry) :
    entries.flatMap (Entry.written .off) = [] := by
  rw [written_eq, List.filter_eq_nil_iff]
  intro r _
  rw [passes_off]
  exact Bool.false_ne_true

-- =============================================================== journals

/-- A record that is put into words only where its level is enabled. -/
def Record.formatted (r : Record) : Entry := .formatted r.level r.category r.message

/-- A log that is being written. -/
structure Journal where
  threshold : Verbosity
  records : List Record := []
deriving DecidableEq, Repr

namespace Journal

/-- Offers an entry. -/
def offer (j : Journal) (e : Entry) : Journal :=
  { j with records := j.records ++ e.written j.threshold }

/-- Offers entries in order. -/
def offerAll (j : Journal) (entries : List Entry) : Journal := entries.foldl offer j

/-- What a journal holds after some entries have been offered. -/
theorem offerAll_eq (j : Journal) (entries : List Entry) :
    j.offerAll entries
      = { j with records := j.records ++ entries.flatMap (Entry.written j.threshold) } := by
  induction entries generalizing j with
  | nil => simp [offerAll]
  | cons e rest ih =>
      show (j.offer e).offerAll rest = _
      rw [ih (j.offer e)]
      simp [offer]

theorem offerAll_append (j : Journal) (first second : List Entry) :
    j.offerAll (first ++ second) = (j.offerAll first).offerAll second :=
  List.foldl_append

end Journal

/-- Records that come as formatted entries are kept as finished ones are. -/
theorem written_formatted (threshold : Verbosity) (records : List Record) :
    (records.map Record.formatted).flatMap (Entry.written threshold)
      = kept threshold records := by
  unfold kept
  rw [List.flatMap_map]
  refine congrArg (List.flatMap · records) (funext fun r => ?_)
  obtain ⟨level, category, message⟩ := r
  cases threshold <;> cases level <;> rfl

end ConsoleLinks.Log
