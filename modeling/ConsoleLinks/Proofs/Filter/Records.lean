/-
The two formats of the filter: the records say what the text says.

# A record is read back

A record is a value that the reader can hold, whatever the line and
whatever a customizer makes of it (`ProcessedLine.readable_toJson`), so its
text is read back as that value, and the value as the processed line
(`ProcessedLine.read?_render`). The escapes leave no control character in a
record, so the line feed behind it is the only one: the stream of records
falls apart into them again.

# The two runs

A dispatcher has processed a line before anything is written for it, so the
format has no part in what it makes of the lines (`filter_json`).
-/
import ConsoleLinks.Proofs.Filter.Lines
import ConsoleLinks.Proofs.Target.Json

namespace ConsoleLinks

open Text

-- ============================================================== records

namespace ProcessedLine

/-- A value that may be `null` for none. -/
def orNull? {α : Type} (read : Json → Option α) : Json → Option (Option α)
  | .null => some none
  | value => (read value).map some

/-- The processed line that a value describes: an object of the three
members of a record, in their order. -/
def ofJson? : Json → Option ProcessedLine
  | .object [("text", text), ("customizer", customizer), ("target", target)] => do
    let text ← text.text?
    let customizer ← orNull? Json.text? customizer
    let target ← orNull? NavigationTarget.ofJson? target
    return ⟨text, customizer, target⟩
  | _ => none

/-- The processed line that a JSON text describes. -/
def read? (record : List Char) : Option ProcessedLine :=
  match Json.read record with
  | .ok value => ofJson? value
  | .error _ => none

theorem orNull?_customizer (customizer : Option String) :
    orNull? Json.text? ((customizer.map Json.str).getD .null) = some customizer := by
  cases customizer <;> rfl

theorem orNull?_target (target : Option NavigationTarget) :
    orNull? NavigationTarget.ofJson? ((target.map NavigationTarget.toJson).getD .null)
      = some target := by
  cases target with
  | none => rfl
  | some t =>
      show (NavigationTarget.ofJson? t.toJson).map some = some (some t)
      rw [NavigationTarget.ofJson?_toJson]
      rfl

/-- A processed line is what its record describes. -/
theorem ofJson?_toJson (p : ProcessedLine) : ofJson? p.toJson = some p := by
  simp [toJson, ofJson?, Json.text?, orNull?_customizer, orNull?_target]

/-- The reader can hold any record. -/
theorem readable_toJson (p : ProcessedLine) : p.toJson.Readable Json.maxDepth := by
  have hcustomizer : Json.Readable (Json.maxDepth - 1)
      ((p.customizer.map Json.str).getD .null) := by
    cases p.customizer <;> trivial
  have htarget : Json.Readable (Json.maxDepth - 1)
      ((p.target.map NavigationTarget.toJson).getD .null) := by
    cases p.target with
    | none => trivial
    | some t => exact t.readable_toJson (by decide)
  have hdepth : 0 < Json.maxDepth := by decide
  simp [toJson, Json.Readable, Json.MembersReadable, hdepth, hcustomizer, htarget]

/-- A record is read back as the line it was written for. -/
theorem read?_render (p : ProcessedLine) : read? p.toJson.render = some p := by
  unfold read?
  rw [Json.read_render p.readable_toJson]
  exact p.ofJson?_toJson

/-- There is no line feed in a record. -/
theorem newline_not_mem_render (p : ProcessedLine) : '\n' ∉ p.toJson.render := by
  intro hmem
  have hcontrol := Json.not_control_of_mem_render p.toJson p.readable_toJson '\n' hmem
  revert hcontrol
  decide

end ProcessedLine

-- ================================================================ the law

/-- The law of the two formats. Whatever the customizers of a dispatcher
and its state, and whatever the bytes: the records are as many as the
lines, each ends in a line feed and holds no other, and each is read back
as what the dispatcher makes of its line; the text is that of the same
processed lines; and both runs end in the same state. -/
theorem Dispatcher.filter_json (d : Dispatcher) (bytes : List UInt8) :
    let lines := linesOf (Utf8.decode bytes)
    let processed := (d.processLines lines).2
    let json := d.filter .json ⟨bytes, none⟩ none
    let text := d.filter .text ⟨bytes, none⟩ none
    (∃ records : List (List Char),
      json.text.toList = ended '\n' records
        ∧ (∀ record ∈ records, '\n' ∉ record)
        ∧ records.length = lines.length
        ∧ records.map ProcessedLine.read? = processed.map some)
      ∧ text.text.toList = ended '\n' (processed.map (·.text.toList))
      ∧ json.dispatcher = text.dispatcher
      ∧ json.fault = none ∧ text.fault = none := by
  intro lines processed json text
  have hlines : Source.lines ⟨bytes, none⟩ = lines := Source.lines_eq_linesOf bytes
  -- a run over all lines, in either format
  have hrun : ∀ emit : EmitFormat, d.filter emit ⟨bytes, none⟩ none
      = ⟨lines, processed.map emit.written, (d.processLines lines).1, none⟩ := by
    intro emit
    unfold Dispatcher.filter
    rw [hlines]
    rfl
  have hjson : json.text.toList = ended '\n' (processed.map (·.toJson.render)) := by
    show (d.filter .json ⟨bytes, none⟩ none).text.toList = _
    rw [hrun, FilterRun.text, String.toList_ofList, ended, List.flatMap_map,
      List.flatMap_def]
    rfl
  have htext : text.text.toList = ended '\n' (processed.map (·.text.toList)) := by
    show (d.filter .text ⟨bytes, none⟩ none).text.toList = _
    rw [hrun, FilterRun.text, String.toList_ofList, flatten_map_written]
  refine ⟨⟨processed.map (·.toJson.render), hjson, ?_, ?_, ?_⟩, htext, rfl, rfl, rfl⟩
  · intro record hrecord
    obtain ⟨p, -, rfl⟩ := List.mem_map.1 hrecord
    exact p.newline_not_mem_render
  · rw [List.length_map]
    exact d.length_processLines lines
  · rw [List.map_map]
    refine List.map_congr_left fun p _ => ?_
    rw [Function.comp_apply, ProcessedLine.read?_render]

end ConsoleLinks
