/-
The filter as the loop it runs as: read on to the next line feed, process
the line, write it piece by piece, and start again, until the source or
the sink gives out.

# What the loop adds

`Dispatcher.filter` reads all lines, processes them all, and then looks for
the first of them that the sink had no room for. The loop never looks
ahead, and it knows one thing more: a line is not written at once, so when
the sink gives out in the middle of one, some of its pieces have been
taken. How a line is cut into pieces is not the filter's business, and is
a parameter (`EmitFormat.Writes`).

# The invariant

One round either hands the rest of the source, the next dispatcher and a
sink with the whole line in it to the next round, or it is the last
(`filterLoop_of_line`, `filterLoop_of_ended`, `filterLoop_of_failed`). So
what is said of the lines still to come (`Ends`) is carried backwards over
one line (`Ends.cons`), and holds of a run by induction on its lines
(`ends_filterLoop`).
-/
import ConsoleLinks.Proofs.Dispatcher.Lines
import ConsoleLinks.Proofs.Filter.Lines
import ConsoleLinks.Proofs.Text.Runs

namespace ConsoleLinks

open Text

-- ============================================================== reading

/-- What reading on to the next line feed comes to. -/
inductive Reading where
  /-- A line without its line feed, and the source behind it. -/
  | line (bytes : List UInt8) (behind : Source)
  /-- The input has ended. -/
  | ended
  /-- The source failed in front of the next line feed. -/
  | failed (cause : String)

namespace Source

/-- Reads on to the next line feed. A last line without one is a line,
unless a fault stands where its line feed would. -/
def next (s : Source) : Reading :=
  let line := s.bytes.takeWhile (· ≠ 0x0a)
  match s.bytes.dropWhile (· ≠ 0x0a), s.fault with
  | _ :: rest, _ => .line line { s with bytes := rest }
  | [], some cause => .failed cause
  | [], none => if line = [] then .ended else .line line { s with bytes := [] }

/-- The lines of a source are what reading on hands over first, and the
lines of the source behind it. -/
theorem lineBytes_next (s : Source) :
    s.lineBytes = match s.next with
      | .line bytes behind => bytes :: behind.lineBytes
      | .ended | .failed _ => [] := by
  obtain ⟨bytes, fault⟩ := s
  have hline : (0x0a : UInt8) ∉ bytes.takeWhile (· ≠ 0x0a) := fun hmem => by
    simpa using List.all_eq_true.1 List.all_takeWhile _ hmem
  have hbytes := List.takeWhile_append_dropWhile (p := (· ≠ (0x0a : UInt8))) (l := bytes)
  unfold next
  cases hdrop : bytes.dropWhile (· ≠ 0x0a) with
  | cons b rest =>
      have hb : b = 0x0a := by simpa using head_of_dropWhile_eq_cons hdrop
      have hcut : ended 0x0a [bytes.takeWhile (· ≠ 0x0a)] ++ rest = bytes := by
        rw [ended_cons, List.append_assoc, List.cons_append]
        rw [hdrop, hb] at hbytes
        exact hbytes
      have hone : ∀ part ∈ [bytes.takeWhile (· ≠ 0x0a)], (0x0a : UInt8) ∉ part :=
        fun part hpart => List.mem_singleton.1 hpart ▸ hline
      have h := lineBytes_ended_append hone rest fault
      rw [hcut] at h
      exact h
  | nil =>
      rw [hdrop, List.append_nil] at hbytes
      dsimp only
      rw [hbytes]
      rw [hbytes] at hline
      rw [lineBytes_of_not_mem hline]
      cases fault with
      | some cause => rfl
      | none =>
          by_cases hnil : bytes = []
          · simp [hnil]
          · simp only [hnil, if_false]
            rw [lineBytes_of_not_mem List.not_mem_nil]
            simp [hnil]

/-- Reading a line uses up bytes, and leaves the fault where it is. -/
theorem of_next_eq_line {s behind : Source} {bytes : List UInt8}
    (h : s.next = .line bytes behind) :
    behind.bytes.length < s.bytes.length ∧ behind.fault = s.fault := by
  have hlength := congrArg List.length
    (List.takeWhile_append_dropWhile (p := (· ≠ (0x0a : UInt8))) (l := s.bytes))
  rw [List.length_append] at hlength
  unfold next at h
  dsimp only at h
  split at h
  next _ b rest _ hdrop =>
    injection h with _ hbehind
    rw [hdrop, List.length_cons] at hlength
    rw [← hbehind]
    exact ⟨by dsimp only; omega, rfl⟩
  next => cases h
  next =>
    split at h
    next => cases h
    next hne =>
      injection h with _ hbehind
      have hpos : s.bytes ≠ [] := fun hnil => hne (by rw [hnil]; rfl)
      rw [← hbehind]
      exact ⟨List.length_pos_iff.2 hpos, rfl⟩

/-- What ends the reading is the fault of the source. -/
theorem fault_of_next {s : Source} :
    (s.next = .ended → s.fault = none)
      ∧ ∀ cause, s.next = .failed cause → s.fault = some cause := by
  unfold next
  dsimp only
  constructor
  · intro h
    split at h
    next => cases h
    next => cases h
    next hfault => exact hfault
  · intro cause h
    split at h
    next => cases h
    next hfault =>
      injection h with hcause
      rw [hfault, hcause]
    next => split at h <;> cases h

end Source

-- ============================================================== writing

/-- What is written to, with what it has taken so far, which is never more
than it has room for. -/
structure Sink where
  /-- The number of bytes it takes in all; `none` for any number. -/
  room : Option Nat
  taken : List Char
  fits : ∀ n ∈ room, byteLength taken ≤ n

namespace Sink

/-- A sink that has taken nothing. -/
def empty (room : Option Nat) : Sink := ⟨room, [], fun n _ => Nat.zero_le n⟩

/-- Whether there is room for a text behind what has been taken. -/
def HasRoom (s : Sink) (text : List Char) : Prop :=
  ∀ n ∈ s.room, byteLength (s.taken ++ text) ≤ n

instance (s : Sink) (text : List Char) : Decidable (s.HasRoom text) :=
  inferInstanceAs (Decidable (∀ n ∈ s.room, byteLength (s.taken ++ text) ≤ n))

/-- The sink with a text behind what it has taken. -/
def append (s : Sink) (text : List Char) (h : s.HasRoom text) : Sink :=
  ⟨s.room, s.taken ++ text, h⟩

/-- Writes pieces one after the other. One that there is no room for is
not taken, not even in part, and no more are tried; whether all have been
taken is told. -/
def writeAll (s : Sink) : List (List Char) → Sink × Bool
  | [] => (s, true)
  | piece :: rest =>
    if h : s.HasRoom piece then (s.append piece h).writeAll rest else (s, false)

theorem hasRoom_nil (s : Sink) : s.HasRoom [] := by
  unfold HasRoom
  rw [List.append_nil]
  exact s.fits

/-- There is room for a beginning of what there is room for. -/
theorem HasRoom.of_front {s : Sink} {front text : List Char} (h : s.HasRoom text)
    (hfront : front <+: text) : s.HasRoom front := by
  obtain ⟨back, rfl⟩ := hfront
  intro n hn
  have hall := h n hn
  rw [← List.append_assoc, byteLength_append] at hall
  omega

/-- Room behind what has just been taken is room for both. -/
theorem hasRoom_append_iff {s : Sink} {front : List Char} (h : s.HasRoom front)
    (back : List Char) :
    (s.append front h).HasRoom back ↔ s.HasRoom (front ++ back) := by
  unfold HasRoom append
  rw [List.append_assoc]

theorem append_append {s : Sink} {front back : List Char} (h : s.HasRoom front)
    (hback : (s.append front h).HasRoom back) :
    (s.append front h).append back hback
      = s.append (front ++ back) ((hasRoom_append_iff h back).1 hback) := by
  simp only [append, List.append_assoc]

/-- Pieces that there is room for are all taken. -/
theorem writeAll_of_hasRoom {s : Sink} {parts : List (List Char)}
    (h : s.HasRoom parts.flatten) : s.writeAll parts = (s.append parts.flatten h, true) := by
  induction parts generalizing s with
  | nil =>
      rw [writeAll]
      congr 1
      simp only [append, List.flatten_nil, List.append_nil]
  | cons part parts ih =>
      have hpart : s.HasRoom part := h.of_front (List.prefix_append part parts.flatten)
      have hrest : (s.append part hpart).HasRoom parts.flatten :=
        (hasRoom_append_iff hpart parts.flatten).2 h
      rw [writeAll, dif_pos hpart, ih hrest, append_append]
      rfl

/-- Of pieces that there is no room for, a beginning is taken. -/
theorem writeAll_of_not_hasRoom {s : Sink} {parts : List (List Char)}
    (h : ¬ s.HasRoom parts.flatten) :
    (s.writeAll parts).2 = false
      ∧ s.taken <+: (s.writeAll parts).1.taken
      ∧ (s.writeAll parts).1.taken <+: s.taken ++ parts.flatten := by
  induction parts generalizing s with
  | nil => exact absurd s.hasRoom_nil h
  | cons part parts ih =>
      rw [writeAll]
      by_cases hpart : s.HasRoom part
      · rw [dif_pos hpart]
        have hrest : ¬ (s.append part hpart).HasRoom parts.flatten := fun hroom =>
          h ((hasRoom_append_iff hpart parts.flatten).1 hroom)
        obtain ⟨hfalse, hfront, hback⟩ := ih hrest
        refine ⟨hfalse, (List.prefix_append s.taken part).trans hfront, ?_⟩
        rw [List.flatten_cons, ← List.append_assoc]
        exact hback
      · rw [dif_neg hpart]
        exact ⟨rfl, List.prefix_refl _, List.prefix_append _ _⟩

end Sink

/-- A way to cut what is written for a line into the pieces that are handed
to the sink. -/
structure EmitFormat.Writes (emit : EmitFormat) where
  pieces : ProcessedLine → List (List Char)
  flatten_pieces : ∀ p, (pieces p).flatten = emit.written p

/-- Every line in one piece. -/
instance (emit : EmitFormat) : Inhabited emit.Writes :=
  ⟨fun p => [emit.written p], fun _ => List.append_nil _⟩

/-- A line of text is written in two pieces: what is shown, and then the line
feed. -/
def EmitFormat.textWrites : EmitFormat.Writes .text where
  pieces p := [p.text.toList, ['\n']]
  flatten_pieces p := congrArg (p.text.toList ++ ·) (List.append_nil ['\n'])

-- ============================================================= the loop

/-- What a run has come to. -/
structure Halt where
  dispatcher : Dispatcher
  sink : Sink
  fault : Option FilterFault

namespace Dispatcher

/-- Reads, processes and writes line by line, until there is no more to
read or a fault ends it. -/
def filterLoop (d : Dispatcher) {emit : EmitFormat} (writes : emit.Writes)
    (source : Source) (sink : Sink) : Halt :=
  match _h : source.next with
  | .ended => ⟨d, sink, none⟩
  | .failed cause => ⟨d, sink, some (.read cause)⟩
  | .line bytes behind =>
    let (next, p) := d.processLine (String.ofList (Utf8.decode bytes))
    match sink.writeAll (writes.pieces p) with
    | (sink, true) => next.filterLoop writes behind sink
    | (sink, false) => ⟨next, sink, some .write⟩
termination_by source.bytes.length
decreasing_by exact (Source.of_next_eq_line _h).1

section Rounds

variable {emit : EmitFormat} {writes : emit.Writes} {source : Source}

theorem filterLoop_of_ended (h : source.next = .ended) (d : Dispatcher) (sink : Sink) :
    d.filterLoop writes source sink = ⟨d, sink, none⟩ := by
  rw [filterLoop]
  split <;> simp_all

theorem filterLoop_of_failed {cause : String} (h : source.next = .failed cause)
    (d : Dispatcher) (sink : Sink) :
    d.filterLoop writes source sink = ⟨d, sink, some (.read cause)⟩ := by
  rw [filterLoop]
  split <;> simp_all

/-- One round with a line: the dispatcher has processed it, whether or not
it could be written. -/
theorem filterLoop_of_line {bytes : List UInt8} {behind : Source}
    (h : source.next = .line bytes behind) (d : Dispatcher) (sink : Sink) :
    d.filterLoop writes source sink =
      let round := d.processLine (String.ofList (Utf8.decode bytes))
      if hroom : sink.HasRoom (emit.written round.2) then
        round.1.filterLoop writes behind (sink.append (emit.written round.2) hroom)
      else
        ⟨round.1, (sink.writeAll (writes.pieces round.2)).1, some .write⟩ := by
  rw [filterLoop]
  split
  next heq => rw [h] at heq; cases heq
  next heq => rw [h] at heq; cases heq
  next bytes' behind' heq =>
    rw [h] at heq
    injection heq with hbytes hbehind
    subst hbytes hbehind
    have hpieces := writes.flatten_pieces
      (d.processLine (String.ofList (Utf8.decode bytes))).2
    dsimp only
    by_cases hroom : sink.HasRoom
        (emit.written (d.processLine (String.ofList (Utf8.decode bytes))).2)
    · rw [dif_pos hroom]
      simp only [← hpieces] at hroom ⊢
      rw [Sink.writeAll_of_hasRoom hroom]
    · rw [dif_neg hroom]
      rw [← hpieces] at hroom
      have hfalse := (Sink.writeAll_of_not_hasRoom hroom).1
      split
      next heq => rw [heq] at hfalse; cases hfalse
      next heq => rw [heq]

end Rounds

-- ============================================================== the ends

/-- What is written for lines in a row. -/
def shown (d : Dispatcher) (emit : EmitFormat) (lines : List String) : List Char :=
  ((d.processLines lines).2.map emit.written).flatten

/-- How a run ends, from the lines it can read, the fault behind them, and
the sink it starts with. -/
inductive Ends (d : Dispatcher) (emit : EmitFormat) (lines : List String)
    (fault : Option String) (sink : Sink) : Halt → Prop where
  /-- There is room for the first `k` lines and no room for one more. That
  line has been processed, and some of it may have been taken. -/
  | full (k : Nat) {after : Sink} (hk : k < lines.length)
      (hroom : ∀ j ≤ k, sink.HasRoom (d.shown emit (lines.take j)))
      (hfull : ¬ sink.HasRoom (d.shown emit (lines.take (k + 1))))
      (hbefore : sink.taken ++ d.shown emit (lines.take k) <+: after.taken)
      (hafter : after.taken <+: sink.taken ++ d.shown emit (lines.take (k + 1))) :
      Ends d emit lines fault sink
        ⟨(d.processLines (lines.take (k + 1))).1, after, some .write⟩
  /-- There is room for all lines, and the source fails behind them. -/
  | brokenOff {cause : String} (hfault : fault = some cause)
      (hroom : sink.HasRoom (d.shown emit lines)) :
      Ends d emit lines fault sink
        ⟨(d.processLines lines).1, sink.append (d.shown emit lines) hroom,
          some (.read cause)⟩
  /-- There is room for all lines, and nothing behind them. -/
  | complete (hfault : fault = none) (hroom : sink.HasRoom (d.shown emit lines)) :
      Ends d emit lines fault sink
        ⟨(d.processLines lines).1, sink.append (d.shown emit lines) hroom, none⟩

namespace Ends

variable {d : Dispatcher} {emit : EmitFormat} {fault : Option String}

theorem append_nil (sink : Sink) (d : Dispatcher) (emit : EmitFormat) :
    sink.append (d.shown emit []) sink.hasRoom_nil = sink := by
  simp [Sink.append, shown, processLines]

/-- A run that goes on behind a line ends as what is behind it does. -/
theorem cons {line : String} {lines : List String} {sink : Sink} {halt : Halt}
    (hroom : sink.HasRoom (emit.written (d.processLine line).2))
    (h : (d.processLine line).1.Ends emit lines fault
      (sink.append (emit.written (d.processLine line).2) hroom) halt) :
    d.Ends emit (line :: lines) fault sink halt := by
  have hboth : ∀ rest : List String,
      (sink.append _ hroom).HasRoom ((d.processLine line).1.shown emit rest)
        ↔ sink.HasRoom (d.shown emit (line :: rest)) := fun rest =>
    Sink.hasRoom_append_iff hroom _
  have htaken : ∀ rest : List String,
      (sink.append _ hroom).taken ++ (d.processLine line).1.shown emit rest
        = sink.taken ++ d.shown emit (line :: rest) := fun rest =>
    List.append_assoc ..
  cases h with
  | full k hk hbelow hfull hbefore hafter =>
      rw [htaken] at hbefore hafter
      refine .full (k + 1) (Nat.succ_lt_succ hk) (fun j hj => ?_)
        (fun hall => hfull ((hboth _).2 hall)) hbefore hafter
      cases j with
      | zero => exact sink.hasRoom_nil
      | succ j => exact (hboth _).1 (hbelow j (Nat.le_of_succ_le_succ hj))
  | brokenOff hfault hrest =>
      have hall := (hboth lines).1 hrest
      rw [Sink.append_append]
      exact .brokenOff hfault hall
  | complete hfault hrest =>
      have hall := (hboth lines).1 hrest
      rw [Sink.append_append]
      exact .complete hfault hall

end Ends

/-- Every run of the loop ends so. -/
theorem ends_filterLoop (d : Dispatcher) {emit : EmitFormat} (writes : emit.Writes)
    (source : Source) (sink : Sink) :
    d.Ends emit source.lines source.fault sink (d.filterLoop writes source sink) := by
  induction hn : source.bytes.length using Nat.strongRecOn
    generalizing d source sink with
  | ind n ih =>
    have hlines := source.lineBytes_next
    cases hnext : source.next with
    | ended =>
        rw [hnext] at hlines
        rw [filterLoop_of_ended hnext, Source.lines, hlines]
        have h : d.Ends emit [] source.fault sink _ :=
          .complete (Source.fault_of_next.1 hnext) sink.hasRoom_nil
        rwa [Ends.append_nil] at h
    | failed cause =>
        rw [hnext] at hlines
        rw [filterLoop_of_failed hnext, Source.lines, hlines]
        have h : d.Ends emit [] source.fault sink _ :=
          .brokenOff (Source.fault_of_next.2 cause hnext) sink.hasRoom_nil
        rwa [Ends.append_nil] at h
    | line bytes behind =>
        rw [hnext] at hlines
        obtain ⟨hless, hfault⟩ := Source.of_next_eq_line hnext
        rw [filterLoop_of_line hnext, Source.lines, hlines, List.map_cons, ← hfault]
        dsimp only
        by_cases hroom : sink.HasRoom
            (emit.written (d.processLine (String.ofList (Utf8.decode bytes))).2)
        · rw [dif_pos hroom]
          exact .cons hroom (ih _ (hn ▸ hless) _ behind _ rfl)
        · rw [dif_neg hroom]
          have hnone := hroom
          rw [← writes.flatten_pieces] at hnone
          obtain ⟨-, hbefore, hafter⟩ := Sink.writeAll_of_not_hasRoom hnone
          rw [writes.flatten_pieces] at hafter
          have hone : ∀ line : String, ∀ rest : List String,
              d.shown emit ((line :: rest).take 1) = emit.written (d.processLine line).2 :=
            fun line rest => List.append_nil _
          refine .full 0 (Nat.zero_lt_succ _) (fun j hj => ?_) ?_ ?_ ?_
          · rw [Nat.le_zero.1 hj]
            exact sink.hasRoom_nil
          · rw [hone]
            exact hroom
          · show sink.taken ++ [] <+: _
            rw [List.append_nil]
            exact hbefore
          · rw [hone]
            exact hafter

end Dispatcher

end ConsoleLinks
