/-
Faults of the source and the sink: each ends a run at a definite line, and
the two cannot be confused.

# Which lines there are

A source that fails hands over only some of the bytes, and its lines are
those that a line feed ends there; what stands behind the last of them is
lost with the fault. A source that does not fail hands over all bytes, and
what stands behind the last line feed is a line too (`HandsOver`).

# Which fault it is

The sink is asked line by line and the source only in front of the next
line, so a sink without room for one of the lines ends the run first, with
the dispatcher behind that line; otherwise the source decides. That is read
off the loop (`ends_filterLoop`). The filter, which finds the same line by
its total (`overflow?`), comes to the same (`filter_of_ends`).
-/
import ConsoleLinks.Proofs.Filter.Loop

namespace ConsoleLinks

open Text

-- ======================================================== lines handed over

/-- The lines that a source hands over, as bytes, and the fault that it
meets behind them: `limit` bytes can be read from it, or all. -/
inductive HandsOver (bytes : List UInt8) (cause : String) :
    (limit : Option Nat) → List (List UInt8) → Option String → Prop where
  /-- The limit is within the bytes. What stands in front of it without a
  line feed is no line. -/
  | cutShort {limit : Nat} {parts : List (List UInt8)} {rest : List UInt8}
      (hlimit : limit ≤ bytes.length) (hparts : ∀ part ∈ parts, 0x0a ∉ part)
      (hrest : 0x0a ∉ rest) (hbytes : bytes.take limit = ended 0x0a parts ++ rest) :
      HandsOver bytes cause (some limit) parts (some cause)
  /-- The limit is beyond the bytes, or there is none. -/
  | whole {limit : Option Nat} {parts : List (List UInt8)} {rest : List UInt8}
      (hlimit : ∀ n ∈ limit, bytes.length < n) (hparts : ∀ part ∈ parts, 0x0a ∉ part)
      (hrest : 0x0a ∉ rest) (hbytes : bytes = ended 0x0a parts ++ rest) :
      HandsOver bytes cause limit (parts ++ if rest = [] then [] else [rest]) none

/-- Any bytes are lines and a rest. -/
theorem exists_eq_ended_append (bytes : List UInt8) :
    ∃ parts rest, bytes = ended 0x0a parts ++ rest
      ∧ (∀ part ∈ parts, 0x0a ∉ part) ∧ 0x0a ∉ rest := by
  obtain ⟨parts, rest, hpieces⟩ := exists_eq_concat_pieces 0x0a bytes
  have hmem : ∀ part ∈ parts ++ [rest], 0x0a ∉ part := fun part hpart =>
    not_mem_of_mem_pieces (hpieces ▸ hpart)
  exact ⟨parts, rest, (ended_append_of_pieces hpieces).symm,
    fun part hpart => hmem part (List.mem_append_left _ hpart),
    hmem rest (List.mem_append_right _ (List.mem_singleton_self rest))⟩

namespace Source

theorem failingAfter_of_le {bytes : List UInt8} {limit : Nat}
    (h : limit ≤ bytes.length) (cause : String) :
    failingAfter bytes (some limit) cause = ⟨bytes.take limit, some cause⟩ := by
  unfold failingAfter
  exact if_pos h

theorem failingAfter_of_lt {bytes : List UInt8} {limit : Option Nat}
    (h : ∀ n ∈ limit, bytes.length < n) (cause : String) :
    failingAfter bytes limit cause = ⟨bytes, none⟩ := by
  cases limit with
  | none => rfl
  | some n => exact if_neg (Nat.not_le.2 (h n rfl))

/-- A source with a limit hands over its lines and its fault. -/
theorem handsOver (bytes : List UInt8) (limit : Option Nat) (cause : String) :
    HandsOver bytes cause limit (failingAfter bytes limit cause).lineBytes
      (failingAfter bytes limit cause).fault := by
  by_cases hlimit : ∀ n ∈ limit, bytes.length < n
  · obtain ⟨parts, rest, hbytes, hparts, hrest⟩ := exists_eq_ended_append bytes
    have hlines : lineBytes ⟨bytes, none⟩ = parts ++ if rest = [] then [] else [rest] := by
      rw [hbytes, lineBytes_ended_append hparts, lineBytes_of_not_mem hrest]
      by_cases hnil : rest = [] <;> simp [hnil]
    rw [failingAfter_of_lt hlimit, hlines]
    exact .whole hlimit hparts hrest hbytes
  · simp only [not_forall, Nat.not_lt] at hlimit
    obtain ⟨n, rfl, hle⟩ := hlimit
    obtain ⟨parts, rest, hbytes, hparts, hrest⟩ := exists_eq_ended_append (bytes.take n)
    have hlines : lineBytes ⟨bytes.take n, some cause⟩ = parts := by
      rw [hbytes, lineBytes_ended_append hparts, lineBytes_of_not_mem hrest]
      simp
    rw [failingAfter_of_le hle, hlines]
    exact .cutShort hle hparts hrest hbytes

/-- The lines in front of a fault are the first ones of all. -/
theorem lines_failingAfter (bytes : List UInt8) (limit : Option Nat)
    (cause : String) :
    (failingAfter bytes limit cause).lines <+: Source.lines ⟨bytes, none⟩ := by
  refine List.IsPrefix.map _ ?_
  by_cases hlimit : ∀ n ∈ limit, bytes.length < n
  · exact ⟨[], by rw [failingAfter_of_lt hlimit, List.append_nil]⟩
  · simp only [not_forall, Nat.not_lt] at hlimit
    obtain ⟨n, rfl, hle⟩ := hlimit
    obtain ⟨parts, rest, hbytes, hparts, hrest⟩ := exists_eq_ended_append (bytes.take n)
    have hall : bytes = ended 0x0a parts ++ (rest ++ bytes.drop n) := by
      rw [← List.append_assoc, ← hbytes, List.take_append_drop]
    rw [failingAfter_of_le hle, hbytes, lineBytes_ended_append hparts,
      lineBytes_of_not_mem hrest]
    conv => rhs; rw [hall, lineBytes_ended_append hparts]
    simp

end Source

-- ============================================================ lines in a row

namespace Dispatcher

variable {d : Dispatcher} {emit : EmitFormat}

/-- What is written for the first lines stands in front of all that is
written. -/
theorem shown_of_front {front lines : List String} (h : front <+: lines) :
    d.shown emit front <+: d.shown emit lines := by
  obtain ⟨back, rfl⟩ := h
  unfold shown
  rw [processLines_append, List.map_append, List.flatten_append]
  exact List.prefix_append _ _

/-- What is written for the first lines is the beginning of what is written
for each of all. -/
theorem flatten_take_written (d : Dispatcher) (emit : EmitFormat) (lines : List String)
    (k : Nat) :
    (((d.processLines lines).2.map emit.written).take k).flatten
      = d.shown emit (lines.take k) := by
  have hlines := d.processLines_append (lines.take k) (lines.drop k)
  rw [List.take_append_drop] at hlines
  have hlength : ((d.processLines (lines.take k)).2.map emit.written).length ≤ k := by
    rw [List.length_map, length_processLines]
    exact List.length_take_le k lines
  by_cases hk : k ≤ lines.length
  · have hexact : ((d.processLines (lines.take k)).2.map emit.written).length = k := by
      rw [List.length_map, length_processLines, List.length_take_of_le hk]
    rw [hlines, List.map_append, List.take_append_of_le_length (Nat.le_of_eq hexact.symm),
      List.take_of_length_le hlength]
    rfl
  · have hall : lines.length ≤ k := Nat.le_of_lt (Nat.lt_of_not_le hk)
    rw [List.take_of_length_le hall, List.take_of_length_le]
    · rfl
    · rw [List.length_map, length_processLines]
      exact hall

end Dispatcher

-- ========================================================== the sink by totals

/-- Written lines that all fit are not too long. -/
theorem overflow?_of_fits {room sofar : Nat} {output : List (List Char)}
    (h : sofar + byteLength output.flatten ≤ room) : overflow? room sofar output = none := by
  induction output generalizing sofar with
  | nil => rfl
  | cons line output ih =>
      rw [List.flatten_cons, byteLength_append] at h
      rw [overflow?, if_neg (by omega), ih (by omega)]
      rfl

/-- The first written line that does not fit is found. -/
theorem overflow?_of_full {room sofar k : Nat} {output : List (List Char)}
    (hfits : sofar + byteLength (output.take k).flatten ≤ room)
    (hfull : room < sofar + byteLength (output.take (k + 1)).flatten) :
    overflow? room sofar output = some k := by
  induction output generalizing sofar k with
  | nil =>
      rw [List.take_nil] at hfits hfull
      omega
  | cons line output ih =>
      rw [List.take_succ_cons, List.flatten_cons, byteLength_append] at hfull
      rw [overflow?]
      cases k with
      | zero =>
          rw [List.take_zero, List.flatten_nil, byteLength_nil] at hfull
          rw [if_pos (by omega)]
      | succ k =>
          rw [List.take_succ_cons, List.flatten_cons, byteLength_append] at hfits
          have hfound : overflow? room (sofar + byteLength line) output = some k :=
            ih (by omega) (by omega)
          rw [if_neg (by omega), hfound]
          rfl

namespace Dispatcher

variable {d : Dispatcher} {emit : EmitFormat} {source : Source} {room : Option Nat}

/-- Room in a sink that has taken nothing. -/
theorem hasRoom_empty_iff {text : List Char} :
    (Sink.empty room).HasRoom text ↔ ∀ n ∈ room, byteLength text ≤ n := Iff.rfl

/-- No line overflows a sink that has room for all of them. -/
theorem no_overflow {lines : List String}
    (h : (Sink.empty room).HasRoom (d.shown emit lines)) :
    room.bind (overflow? · 0 ((d.processLines lines).2.map emit.written)) = none := by
  refine Option.bind_eq_none_iff.2 fun n hn => overflow?_of_fits ?_
  rw [Nat.zero_add]
  exact h n hn

/-- A run of the filter ends as the loop does: with the same dispatcher and
the same fault. All that it has written has been taken; nothing else has
been unless the sink gave out. -/
theorem filter_of_ends {halt : Halt}
    (h : d.Ends emit source.lines source.fault (.empty room) halt) :
    (d.filter emit source room).dispatcher = halt.dispatcher
      ∧ (d.filter emit source room).fault = halt.fault
      ∧ (d.filter emit source room).text.toList <+: halt.sink.taken
      ∧ (halt.fault ≠ some .write →
          (d.filter emit source room).text.toList = halt.sink.taken) := by
  unfold filter FilterRun.text
  dsimp only
  cases h with
  | full k hk hbelow hfull hbefore hafter =>
      have hk' := hbelow k (Nat.le_refl k)
      rw [hasRoom_empty_iff] at hfull hk'
      simp only [not_forall, Nat.not_le] at hfull
      obtain ⟨n, rfl, hover⟩ := hfull
      have hfound : overflow? n 0 ((d.processLines source.lines).2.map emit.written)
          = some k := by
        refine overflow?_of_full ?_ ?_
        · rw [flatten_take_written, Nat.zero_add]
          exact hk' n rfl
        · rw [flatten_take_written, Nat.zero_add]
          exact hover
      rw [Option.bind_some, hfound]
      refine ⟨rfl, rfl, ?_, fun hne => absurd rfl hne⟩
      dsimp only
      rw [String.toList_ofList, flatten_take_written]
      exact hbefore
  | brokenOff hfault hroom =>
      rw [no_overflow hroom, hfault]
      dsimp only
      rw [String.toList_ofList]
      exact ⟨rfl, rfl, List.prefix_refl _, fun _ => rfl⟩
  | complete hfault hroom =>
      rw [no_overflow hroom, hfault]
      dsimp only
      rw [String.toList_ofList]
      exact ⟨rfl, rfl, List.prefix_refl _, fun _ => rfl⟩

/-- What the sink has taken when a run ends is a beginning of what is
written for the lines. -/
theorem Ends.taken_front {lines : List String} {fault : Option String} {halt : Halt}
    (h : d.Ends emit lines fault (.empty room) halt) :
    halt.sink.taken <+: d.shown emit lines := by
  cases h with
  | full k hk hbelow hfull hbefore hafter =>
      exact hafter.trans (shown_of_front (List.take_prefix (k + 1) lines))
  | brokenOff hfault hroom => exact List.prefix_refl _
  | complete hfault hroom => exact List.prefix_refl _

-- ================================================================ the law

/-- The law of faults. Whatever the dispatcher, the format, the cut of a
line into pieces, the input, the bytes that can be read of it, and the
room in the sink: the lines are those that the source hands over, the run
ends at a definite one of them (`Ends`), the filter says so, and what the
sink has taken is a beginning of what a run without limits writes. -/
theorem filter_faults (d : Dispatcher) {emit : EmitFormat} (writes : emit.Writes)
    (bytes : List UInt8) (limit room : Option Nat) (cause : String) :
    let source := Source.failingAfter bytes limit cause
    let halt := d.filterLoop writes source (.empty room)
    let run := d.filter emit source room
    HandsOver bytes cause limit source.lineBytes source.fault
      ∧ d.Ends emit source.lines source.fault (.empty room) halt
      ∧ run.dispatcher = halt.dispatcher
      ∧ run.fault = halt.fault
      ∧ run.text.toList <+: halt.sink.taken
      ∧ (halt.fault ≠ some .write → run.text.toList = halt.sink.taken)
      ∧ halt.sink.taken <+: (d.filter emit ⟨bytes, none⟩ none).text.toList := by
  intro source halt run
  have hends : d.Ends emit source.lines source.fault (.empty room) halt :=
    d.ends_filterLoop writes source (.empty room)
  obtain ⟨hdispatcher, hfault, hbefore, hexact⟩ := filter_of_ends hends
  have hwhole : (d.filter emit ⟨bytes, none⟩ none).text.toList
      = d.shown emit (Source.lines ⟨bytes, none⟩) := String.toList_ofList
  have hlines : source.lines <+: Source.lines ⟨bytes, none⟩ :=
    Source.lines_failingAfter bytes limit cause
  refine ⟨Source.handsOver bytes limit cause, hends, hdispatcher, hfault, hbefore, hexact, ?_⟩
  rw [hwhole]
  exact hends.taken_front.trans (shown_of_front hlines)

/-- A sink that gives out between a line and its line feed: it has taken the
line, which the filter does not count as written, and the run ends there. -/
theorem filter_faults_before_line_feed :
    let d := ofCustomizers []
    let source := Source.failingAfter [0x61, 0x62, 0x0a, 0x63, 0x64, 0x0a, 0x65] none ""
    let halt := d.filterLoop EmitFormat.textWrites source (.empty (some 5))
    let run := d.filter .text source (some 5)
    halt.sink.taken = "ab\ncd".toList
      ∧ halt.fault = some .write
      ∧ run.text = "ab\n"
      ∧ run.fault = some .write
      ∧ d.Ends .text source.lines source.fault (.empty (some 5)) halt
      ∧ halt.sink.taken <+: "ab\ncd\ne\n".toList := by
  intro d source halt run
  have htaken : halt.sink.taken = "ab\ncd".toList := by decide +kernel
  have hfault : halt.fault = some .write := by decide +kernel
  have hlaw := d.filter_faults EmitFormat.textWrites
    [0x61, 0x62, 0x0a, 0x63, 0x64, 0x0a, 0x65] none (some 5) ""
  refine ⟨htaken, hfault, by decide +kernel, hlaw.2.2.2.1.trans hfault, hlaw.2.1, ?_⟩
  have hwhole : (d.filter .text ⟨[0x61, 0x62, 0x0a, 0x63, 0x64, 0x0a, 0x65], none⟩
      none).text.toList = "ab\ncd\ne\n".toList := by decide +kernel
  rw [← hwhole]
  exact hlaw.2.2.2.2.2.2

end Dispatcher

end ConsoleLinks
