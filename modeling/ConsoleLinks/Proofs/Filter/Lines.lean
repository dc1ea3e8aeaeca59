/-
The filter line by line: what it writes for a stream is what the
dispatcher makes of the lines of the decoded text, one line of output for
each.

# The two orders

The filter cuts bytes into lines and reads each line by itself. It comes
to the same to read all bytes as one text and to cut that
(`Source.lines_eq_linesOf`, from `Utf8.pieces_decode`): a stretch of bytes
that a line feed breaks off is no character either way.

# The count of lines

A line has no line feed in it, and none comes in with a link: the visible
text is the line's own, and the payload holds no control character when
the settings have been validated (`newline_not_mem_apply`). So the line
feeds of the output are those behind the lines
(`Config.filter_linesOf_decode`).
-/
import ConsoleLinks.Filter
import ConsoleLinks.Proofs.Anchor.Payload
import ConsoleLinks.Proofs.Dispatcher.Lines
import ConsoleLinks.Proofs.Linking
import ConsoleLinks.Proofs.Text.Utf8

namespace ConsoleLinks

open Text

-- ============================================================== lines in

/-- The lines of a text: what lies between its line feeds. An empty piece
behind the last line feed is no line. -/
def linesOf (text : List Char) : List String :=
  let all := pieces '\n' text
  (if all.getLast? = some [] then all.dropLast else all).map String.ofList

namespace Source

/-- The lines of a source, from its pieces. -/
theorem lineBytes_of_pieces {s : Source} {parts : List (List UInt8)}
    {last : List UInt8} (h : pieces 0x0a s.bytes = parts ++ [last]) :
    s.lineBytes = if s.fault = none ∧ last ≠ [] then parts ++ [last] else parts := by
  unfold lineBytes
  dsimp only
  rw [h, List.getLast?_concat, List.dropLast_concat]
  cases s.fault with
  | some cause => simp
  | none => cases last <;> simp

/-- Lines that end in line feeds stand before those of the rest. -/
theorem lineBytes_ended_append {parts : List (List UInt8)}
    (h : ∀ part ∈ parts, 0x0a ∉ part) (rest : List UInt8) (fault : Option String) :
    Source.lineBytes ⟨ended 0x0a parts ++ rest, fault⟩
      = parts ++ Source.lineBytes ⟨rest, fault⟩ := by
  obtain ⟨others, last, hrest⟩ := exists_eq_concat_pieces 0x0a rest
  have hmem : ∀ part ∈ others ++ [last], 0x0a ∉ part := fun part hpart =>
    not_mem_of_mem_pieces (hrest ▸ hpart)
  have hall : pieces 0x0a (ended 0x0a parts ++ rest) = (parts ++ others) ++ [last] := by
    have hbytes : ended 0x0a parts ++ rest = ended 0x0a (parts ++ others) ++ last := by
      rw [← ended_append_of_pieces hrest, ended, ended, ended, List.flatMap_append,
        List.append_assoc]
    rw [hbytes]
    refine pieces_ended_append (fun part hpart => ?_)
      (hmem last (List.mem_append_right _ (List.mem_singleton_self last)))
    rcases List.mem_append.1 hpart with hpart | hpart
    · exact h part hpart
    · exact hmem part (List.mem_append_left _ hpart)
  rw [lineBytes_of_pieces (s := ⟨_, fault⟩) hall,
    lineBytes_of_pieces (s := ⟨_, fault⟩) hrest]
  split <;> simp

/-- Bytes without a line feed are one line at the most. -/
theorem lineBytes_of_not_mem {rest : List UInt8} (h : 0x0a ∉ rest)
    (fault : Option String) :
    Source.lineBytes ⟨rest, fault⟩
      = if fault = none ∧ rest ≠ [] then [rest] else [] := by
  have hpieces : pieces 0x0a rest = [] ++ [rest] := pieces_of_not_mem h
  exact lineBytes_of_pieces hpieces

end Source

/-- The lines that are read from a source without a fault are the lines
of its text. -/
theorem Source.lines_eq_linesOf (bytes : List UInt8) :
    Source.lines ⟨bytes, none⟩ = linesOf (Utf8.decode bytes) := by
  obtain ⟨parts, last, hparts⟩ := exists_eq_concat_pieces 0x0a bytes
  have hall : pieces '\n' (Utf8.decode bytes)
      = parts.map Utf8.decode ++ [Utf8.decode last] := by
    rw [Utf8.pieces_decode, hparts, List.map_append, List.map_singleton]
  have hbytes := Source.lineBytes_of_pieces (s := ⟨bytes, none⟩) hparts
  unfold Source.lines linesOf
  dsimp only
  rw [hbytes, hall, List.getLast?_concat, List.dropLast_concat]
  by_cases hlast : last = []
  · simp [hlast, Utf8.decode_eq_nil_iff]
  · simp [hlast, Utf8.decode_eq_nil_iff]

/-- A line has no line feed in it. -/
theorem newline_not_mem_of_mem_linesOf {text : List Char} {line : String}
    (h : line ∈ linesOf text) : '\n' ∉ line.toList := by
  obtain ⟨part, hpart, rfl⟩ := List.mem_map.1 h
  have hpiece : part ∈ pieces '\n' text := by
    split at hpart
    next => exact (List.dropLast_sublist _).subset hpart
    next => exact hpart
  rw [String.toList_ofList]
  exact not_mem_of_mem_pieces hpiece

/-- Only the empty text has no lines. -/
theorem linesOf_eq_nil_iff {text : List Char} : linesOf text = [] ↔ text = [] := by
  obtain ⟨parts, last, hparts⟩ := exists_eq_concat_pieces '\n' text
  have htext := ended_append_of_pieces hparts
  constructor
  · intro h
    rw [linesOf, List.map_eq_nil_iff, hparts, List.getLast?_concat,
      List.dropLast_concat] at h
    split at h
    next hlast =>
      injection hlast with hlast
      rw [← htext, h, hlast]
      rfl
    next => exact absurd h (List.append_ne_nil_of_right_ne_nil parts (by simp))
  · rintro rfl
    rfl

-- ============================================================= lines out

variable {config accepted : Config}

/-- The markup of a link holds no line feed but the visible text's own. -/
theorem newline_not_mem_anchor (hvalid : config.validate = .ok accepted)
    (target : NavigationTarget) {visible : List Char} (hvisible : '\n' ∉ visible) :
    '\n' ∉ Anchor.anchor config.anchor target visible := by
  obtain ⟨hscheme, hcalls⟩ := Config.names_of_validate hvalid
  have hpayload : '\n' ∉ Anchor.payload config.anchor target := by
    intro hmem
    have hharmless :=
      Anchor.isHarmless_of_mem_payload hscheme hcalls target '\n' hmem
    revert hharmless
    decide
  have hopening : '\n' ∉ "<a href='".toList := by decide
  have hmark : '\n' ∉ "'>".toList := by decide
  have hclosing : '\n' ∉ Anchor.closingTag := by decide
  unfold Anchor.anchor Anchor.openingTag
  exact List.not_mem_append (List.not_mem_append (List.not_mem_append
    (List.not_mem_append hopening hpayload) hmark) hvisible) hclosing

/-- A link brings no line feed into a line. -/
theorem newline_not_mem_apply (hvalid : config.validate = .ok accepted)
    {e : Ecosystem} {line : String} {m : LineMatch} {done : Customized}
    (hdetect : e.detect line = some m)
    (hdone : m.apply config.anchor line = some done)
    (hline : '\n' ∉ line.toList) : '\n' ∉ done.text.toList := by
  rcases Ecosystem.apply_of_detect config.anchor hdetect with
    happly | ⟨target, before, visible, behind, happly, hparts, -⟩
  · have heq := Option.some.inj (happly.symm.trans hdone)
    rw [← heq]
    exact hline
  · have heq := Option.some.inj (happly.symm.trans hdone)
    rw [hparts] at hline
    simp only [List.mem_append, not_or] at hline
    have hanchor := newline_not_mem_anchor hvalid target hline.1.2
    rw [← heq, String.toList_ofList]
    simp only [List.mem_append, not_or]
    exact ⟨⟨hline.1.1, hanchor⟩, hline.2⟩

/-- What becomes of a line has no line feed in it. -/
theorem newline_not_mem_of_handled (hvalid : config.validate = .ok accepted)
    {line : String} {owner : Option Nat} {processed : ProcessedLine}
    (h : Handled config.dispatcher.customizers line owner processed)
    (hline : '\n' ∉ line.toList) : '\n' ∉ processed.text.toList := by
  have hparts := bodyOf_append_endingOf line
  rw [← hparts, String.toList_append, List.mem_append, not_or] at hline
  cases h with
  | byCustomizer hc hdone =>
      obtain ⟨e, -, rfl⟩ := Config.registered_of_getElem? hc
      obtain ⟨m, hdetect, happly⟩ := Option.bind_eq_some_iff.1 hdone
      rw [String.toList_append, List.mem_append, not_or]
      exact ⟨newline_not_mem_apply hvalid hdetect happly hline.1, hline.2⟩
  | byNobody =>
      rw [← hparts, String.toList_append, List.mem_append, not_or]
      exact hline

/-- Line feeds that only end the parts are as many as the parts. -/
theorem count_ended {parts : List (List Char)} (h : ∀ part ∈ parts, '\n' ∉ part) :
    (ended '\n' parts).count '\n' = parts.length := by
  induction parts with
  | nil => rfl
  | cons part parts ih =>
      have hpart : part.count '\n' = 0 :=
        List.count_eq_zero.2 (h part (List.mem_cons_self ..))
      rw [ended_cons, List.count_append, List.count_cons_self, hpart,
        ih fun p hp => h p (List.mem_cons_of_mem part hp), List.length_cons]
      omega

/-- Only no parts make no text. -/
theorem ended_eq_nil_iff {parts : List (List Char)} :
    ended '\n' parts = [] ↔ parts = [] := by
  cases parts with
  | nil => exact ⟨fun _ => rfl, fun _ => rfl⟩
  | cons part parts => simp [ended_cons]

/-- In text form each processed line is written with a line feed behind
it. -/
theorem flatten_map_written (processed : List ProcessedLine) :
    (processed.map EmitFormat.text.written).flatten
      = ended '\n' (processed.map (·.text.toList)) := by
  rw [ended, List.flatMap_map, List.flatMap_def]
  rfl

-- ================================================================ the law

/-- The filter is the dispatcher on the lines of the decoded text. From
any state that calls can lead to, with a source and a sink that do not
fail, an accepted configuration's dispatcher writes for each line what it
makes of it, with a line feed behind it, and nothing else; it ends in the
state that the last line leaves; and the line feeds written are as many as
the lines. Nothing is written only for no input. -/
theorem Config.filter_linesOf_decode (hvalid : config.validate = .ok accepted)
    (calls : List Call) (bytes : List UInt8) :
    let d := (config.dispatcher.run calls).1
    let lines := linesOf (Utf8.decode bytes)
    let run := d.filter .text ⟨bytes, none⟩ none
    run.text.toList = ended '\n' ((d.processLines lines).2.map (·.text.toList))
      ∧ run.dispatcher = (d.processLines lines).1
      ∧ run.fault = none
      ∧ run.text.toList.count '\n' = lines.length
      ∧ (run.text = "" ↔ bytes = []) := by
  intro d lines run
  have hrun : run = ⟨lines, (d.processLines lines).2.map EmitFormat.text.written,
      (d.processLines lines).1, none⟩ := by
    have hlines : Source.lines ⟨bytes, none⟩ = lines := Source.lines_eq_linesOf bytes
    rw [← hlines]
    rfl
  have htext : run.text.toList
      = ended '\n' ((d.processLines lines).2.map (·.text.toList)) := by
    rw [FilterRun.text, hrun, String.toList_ofList, flatten_map_written]
  have hplain : ∀ part ∈ (d.processLines lines).2.map (·.text.toList),
      '\n' ∉ part := by
    intro part hpart
    obtain ⟨processed, hprocessed, rfl⟩ := List.mem_map.1 hpart
    obtain ⟨line, hline, owner, hhandled⟩ :=
      Dispatcher.handled_of_mem_processLines hprocessed
    rw [Dispatcher.customizers_run] at hhandled
    exact newline_not_mem_of_handled hvalid hhandled
      (newline_not_mem_of_mem_linesOf hline)
  refine ⟨htext, by rw [hrun], by rw [hrun], ?_, ?_⟩
  · rw [htext, count_ended hplain, List.length_map, Dispatcher.length_processLines]
  · rw [← String.toList_eq_nil_iff, htext, ended_eq_nil_iff, List.map_eq_nil_iff,
      ← List.length_eq_zero_iff, Dispatcher.length_processLines,
      List.length_eq_zero_iff, linesOf_eq_nil_iff, Utf8.decode_eq_nil_iff]

/-- Bytes that break off in the middle of a character in front of a line
feed and at the end, in a stream that is following a trace: three lines,
the last one ended too. -/
theorem Config.filter_malformed :
    ({} : Config).validate = .ok {}
      ∧ ((({} : Config).dispatcher.run [.processLine "Caused by: IOError"]).1.filter
            .text ⟨[0x61, 0xe2, 0x82, 0x0a, 0x0a, 0xf0], none⟩ none).text.toList.count
          '\n' = 3 :=
  ⟨validate_default,
    (filter_linesOf_decode validate_default [.processLine "Caused by: IOError"]
      [0x61, 0xe2, 0x82, 0x0a, 0x0a, 0xf0]).2.2.2.1⟩

end ConsoleLinks
