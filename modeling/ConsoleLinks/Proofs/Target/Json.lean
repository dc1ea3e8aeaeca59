/-
Targets as JSON values: a target is read back from the object it is
written as, and that object is one the JSON reader can hold, whatever the
names and paths in it.

Consumed by the texts of targets (`Members.lean`, `Spelling.lean`) and by the
records of the filter (`Proofs/Filter/Records.lean`).
-/
import ConsoleLinks.Proofs.Json.RoundTrip
import ConsoleLinks.Target.Json

namespace ConsoleLinks.NavigationTarget

/-- A line or column is read back from its number. -/
theorem word?_natural (n : UInt32) : word? (.natural n.toNat) = some n := by
  unfold word? Json.natural?
  dsimp only
  rw [if_pos n.toNat_lt_size, UInt32.ofNat_toNat]

/-- A project is read back, and so is none. -/
theorem project?_getD (project : Option String) :
    project? ((project.map Json.str).getD .null) = some project := by
  cases project <;> rfl

/-- A target is read back from its object. -/
theorem ofJson?_toJson (t : NavigationTarget) : ofJson? t.toJson = some t := by
  have hname : ∀ a : Action, action? (.str a.name) = some a := Action.ofName?_name
  cases t <;>
    simp [toJson, ofJson?, Json.member?, action, Action.fields, values, hname, build?,
      Json.text?, word?_natural, project?_getD]

/-- Lines and columns fit the numbers that the reader holds. -/
theorem toNat_lt_size_of_word (n : UInt32) : n.toNat < UInt64.size :=
  Nat.lt_trans n.toNat_lt_size (by decide)

/-- The reader holds the object of any target, wherever one object can stand. -/
theorem readable_toJson (t : NavigationTarget) {depth : Nat} (h : 0 < depth) :
    t.toJson.Readable depth := by
  have hproject : ∀ project : Option String,
      Json.Readable (depth - 1) ((project.map Json.str).getD .null) := by
    intro project
    cases project <;> trivial
  cases t <;>
    simp [toJson, action, Action.fields, values, Json.Readable, Json.MembersReadable,
      toNat_lt_size_of_word, h, hproject]

end ConsoleLinks.NavigationTarget
