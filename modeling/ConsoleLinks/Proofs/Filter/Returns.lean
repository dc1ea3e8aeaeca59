/-
The two line ends: a stream whose lines end in a line feed, and the same
stream with a carriage return in front of every line feed, give the same
links.

# Why the links are the same

A carriage return is a byte of ASCII, so it is read as itself behind
whatever broke off in front of it (`Utf8.decode_append_ascii`), and no
other byte brings one about (`Utf8.toNat_of_getLast?_decode`). So the
lines of the second stream are those of the first with the carriage
return behind them (`Source.lines_withReturns`). The dispatcher cuts it
off before it asks anybody and puts it back behind the text
(`processLine_append_return`), whatever the line comes to and whichever
of the two searches finds its handler; so the two dispatchers never part.
-/
import ConsoleLinks.Proofs.Filter.Lines

namespace ConsoleLinks

namespace Text

variable {α : Type} [DecidableEq α]

/-- A text with a carriage return in front of every line feed; both are
given, for texts are bytes or characters. -/
def withReturns (ret newline : α) (text : List α) : List α :=
  text.flatMap fun a => if a = newline then [ret, newline] else [a]

theorem withReturns_of_not_mem {ret newline : α} {text : List α}
    (h : newline ∉ text) : withReturns ret newline text = text := by
  induction text with
  | nil => rfl
  | cons a text ih =>
      rw [List.mem_cons, not_or] at h
      unfold withReturns at ih ⊢
      rw [List.flatMap_cons, ih h.2, if_neg (Ne.symm h.1)]
      rfl

/-- The parts of a text that line feeds end are ended by both. -/
theorem withReturns_ended {ret newline : α} {parts : List (List α)}
    (h : ∀ part ∈ parts, newline ∉ part) :
    withReturns ret newline (ended newline parts)
      = ended newline (parts.map (· ++ [ret])) := by
  induction parts with
  | nil => rfl
  | cons part parts ih =>
      have hpart : withReturns ret newline part = part :=
        withReturns_of_not_mem (h part (List.mem_cons_self ..))
      have hparts := ih fun p hp => h p (List.mem_cons_of_mem part hp)
      rw [ended_cons, List.map_cons, ended_cons, ← hparts]
      unfold withReturns at hpart ⊢
      rw [List.flatMap_append, hpart, List.flatMap_cons, if_pos rfl, List.append_assoc]
      rfl

/-- A text that is empty or ends in the separator is its parts, each ended
by the separator. -/
theorem exists_eq_ended {separator : α} {text : List α}
    (h : text = [] ∨ text.getLast? = some separator) :
    ∃ parts, text = ended separator parts
      ∧ pieces separator text = parts ++ [[]] := by
  obtain ⟨parts, last, hparts⟩ := exists_eq_concat_pieces separator text
  have htext := ended_append_of_pieces hparts
  have hmem : last ∈ pieces separator text := by
    rw [hparts]
    exact List.mem_append_right _ (List.mem_singleton_self last)
  have hlast : separator ∉ last := not_mem_of_mem_pieces hmem
  have hnil : last = [] := by
    rcases h with hempty | hend
    · rw [hempty] at htext
      exact (List.append_eq_nil_iff.1 htext).2
    · by_cases hne : last = []
      · exact hne
      · rw [← htext, List.getLast?_append, List.getLast?_eq_some_getLast hne] at hend
        exact absurd (Option.some.inj hend ▸ List.getLast_mem hne) hlast
  rw [hnil] at hparts htext
  exact ⟨parts, by rw [← htext, List.append_nil], hparts⟩

end Text

open Text

-- ============================================================== lines in

/-- The bytes of the lines of a source that ends in a line feed. -/
theorem Source.lineBytes_ended {parts : List (List UInt8)}
    (h : ∀ part ∈ parts, 0x0a ∉ part) :
    Source.lineBytes ⟨ended 0x0a parts, none⟩ = parts := by
  have hlines := Source.lineBytes_ended_append h [] none
  rwa [List.append_nil, Source.lineBytes_of_not_mem List.not_mem_nil, if_neg (by simp),
    List.append_nil] at hlines

/-- The lines of a source with carriage returns are its lines without
them, each with one behind it. -/
theorem Source.lines_withReturns {bytes : List UInt8}
    (h : bytes = [] ∨ bytes.getLast? = some 0x0a) :
    Source.lines ⟨withReturns 0x0d 0x0a bytes, none⟩
      = (Source.lines ⟨bytes, none⟩).map (· ++ "\r") := by
  obtain ⟨parts, hbytes, hpieces⟩ := exists_eq_ended h
  have hparts : ∀ part ∈ parts, 0x0a ∉ part := by
    intro part hmem
    have hpiece : part ∈ pieces 0x0a bytes := by
      rw [hpieces]
      exact List.mem_append_left _ hmem
    exact not_mem_of_mem_pieces hpiece
  have hreturns : ∀ part ∈ parts.map (· ++ [0x0d]), (0x0a : UInt8) ∉ part := by
    intro part hmem
    obtain ⟨part', hpart', rfl⟩ := List.mem_map.1 hmem
    exact List.not_mem_append (hparts part' hpart') (by decide)
  unfold Source.lines
  rw [hbytes, withReturns_ended hparts, Source.lineBytes_ended hparts,
    Source.lineBytes_ended hreturns, List.map_map, List.map_map]
  refine List.map_congr_left fun part _ => ?_
  have hdecode : Utf8.decode (part ++ [0x0d]) = Utf8.decode part ++ ['\r'] :=
    Utf8.decode_append_ascii part [] (by decide)
  show String.ofList (Utf8.decode (part ++ [0x0d])) = _
  rw [hdecode, String.ofList_append]
  rfl

/-- A line whose bytes do not end in a carriage return does not end in
one. -/
theorem Source.not_ends_in_return {bytes : List UInt8}
    (h : ∀ part ∈ pieces 0x0a bytes, ¬ [0x0d] <:+ part) :
    ∀ line ∈ Source.lines ⟨bytes, none⟩, ¬ ['\r'] <:+ line.toList := by
  intro line hline hsuffix
  obtain ⟨part, hpart, rfl⟩ := List.mem_map.1 hline
  have hmem : part ∈ pieces 0x0a bytes := by
    obtain ⟨parts, last, hparts⟩ := exists_eq_concat_pieces 0x0a bytes
    rw [Source.lineBytes_of_pieces (s := ⟨bytes, none⟩) hparts] at hpart
    rw [hparts]
    split at hpart
    next => exact hpart
    next => exact List.mem_append_left _ hpart
  rw [String.toList_ofList] at hsuffix
  obtain ⟨front, hfront⟩ := hsuffix
  rcases List.eq_nil_or_concat part with hnil | ⟨init, byte, hconcat⟩
  · rw [hnil] at hfront
    cases front with
    | nil => cases hfront
    | cons c front => cases hfront
  · rw [List.concat_eq_append] at hconcat
    have hlast : (Utf8.decode (init ++ [byte])).getLast? = some '\r' := by
      rw [← hconcat, ← hfront, List.getLast?_concat]
    have hnat := Utf8.toNat_of_getLast?_decode (by decide) (by decide) hlast
    have hbyte : byte = 0x0d := UInt8.toNat.inj hnat
    refine h part hmem ⟨init, ?_⟩
    rw [hconcat, hbyte]

-- ============================================================= lines out

/-- A line as it is shown, with a carriage return behind it. -/
def ProcessedLine.withReturn (p : ProcessedLine) : ProcessedLine :=
  { p with text := p.text ++ "\r" }

/-- A line that does not end in a carriage return is its own body. -/
theorem bodyOf_eq_self {line : String} (h : ¬ ['\r'] <:+ line.toList) :
    bodyOf line = line ∧ endingOf line = "" := by
  have hparts := bodyOf_append_endingOf line
  rcases endingOf_eq line with hreturn | ⟨hnone, -⟩
  · refine absurd ⟨(bodyOf line).toList, ?_⟩ h
    rw [← hparts, hreturn, String.toList_append]
    rw [hreturn] at hparts
    rw [hparts]
    rfl
  · rw [hnone, String.append_empty] at hparts
    exact ⟨hparts, hnone⟩

theorem bodyOf_append_return (line : String) :
    bodyOf (line ++ "\r") = line ∧ endingOf (line ++ "\r") = "\r" := by
  have hword : beforeWord? ['\r'] (line ++ "\r").toList = some line.toList := by
    rw [beforeWord?_eq_some_iff, String.toList_append]
    rfl
  unfold bodyOf endingOf splitReturn
  rw [hword]
  simp

namespace Dispatcher

/-- A carriage return behind a line stays behind it, and changes nothing
else. -/
theorem processLine_append_return (d : Dispatcher) {line : String}
    (h : ¬ ['\r'] <:+ line.toList) :
    d.processLine (line ++ "\r")
      = ((d.processLine line).1, (d.processLine line).2.withReturn) := by
  obtain ⟨hbody, hending⟩ := bodyOf_eq_self h
  obtain ⟨hbody', hending'⟩ := bodyOf_append_return line
  -- both lines are asked about as the same body
  have hasked : d.claim? (bodyOf (line ++ "\r")) = d.claim? (bodyOf line) := by
    rw [hbody, hbody']
  cases hclaim : d.claim? (bodyOf line) with
  | some claim =>
      rw [hclaim] at hasked
      rw [processLine_of_claim hclaim, processLine_of_claim hasked, hending, hending']
      simp [ProcessedLine.withReturn]
  | none =>
      rw [hclaim] at hasked
      rw [processLine_of_no_claim hclaim, processLine_of_no_claim hasked]
      rfl

/-- The same of lines in a row. -/
theorem processLines_map_return {lines : List String} (d : Dispatcher)
    (h : ∀ line ∈ lines, ¬ ['\r'] <:+ line.toList) :
    d.processLines (lines.map (· ++ "\r"))
      = ((d.processLines lines).1,
         (d.processLines lines).2.map ProcessedLine.withReturn) := by
  induction lines generalizing d with
  | nil => rfl
  | cons line rest ih =>
      rw [List.map_cons, processLines_cons,
        processLine_append_return d (h line (List.mem_cons_self ..)),
        ih _ fun line' hmem => h line' (List.mem_cons_of_mem line hmem),
        processLines_cons]
      rfl

end Dispatcher

/-- What an accepted configuration's dispatcher makes of the lines of a
stream has no line feed in it. -/
theorem Config.newline_not_mem_processLines {config accepted : Config}
    (hvalid : config.validate = .ok accepted) (calls : List Call) (bytes : List UInt8) :
    ∀ p ∈ ((config.dispatcher.run calls).1.processLines
      (Source.lines ⟨bytes, none⟩)).2, '\n' ∉ p.text.toList := by
  intro p hp
  obtain ⟨line, hline, owner, hhandled⟩ := Dispatcher.handled_of_mem_processLines hp
  rw [Dispatcher.customizers_run] at hhandled
  rw [Source.lines_eq_linesOf] at hline
  exact newline_not_mem_of_handled hvalid hhandled
    (newline_not_mem_of_mem_linesOf hline)

-- ================================================================ the law

/-- The law of the two line ends. For bytes that are empty or end in a line
feed, with no line that ends in a carriage return, and from any state of an
accepted configuration's dispatcher: a carriage return in front of every
line feed of the input comes to one in front of every line feed of the
output. Line by line the customizer and the target are the same, only the
text has the carriage return behind it; and the dispatcher ends in the same
state. -/
theorem Config.filter_withReturns {config accepted : Config}
    (hvalid : config.validate = .ok accepted) (calls : List Call) {bytes : List UInt8}
    (hended : bytes = [] ∨ bytes.getLast? = some 0x0a)
    (hplain : ∀ line ∈ pieces 0x0a bytes, ¬ [0x0d] <:+ line) :
    let d := (config.dispatcher.run calls).1
    let run := d.filter .text ⟨bytes, none⟩ none
    let run' := d.filter .text ⟨withReturns 0x0d 0x0a bytes, none⟩ none
    run'.text.toList = withReturns '\r' '\n' run.text.toList
      ∧ run'.lines = run.lines.map (· ++ "\r")
      ∧ (d.processLines run'.lines).2
          = (d.processLines run.lines).2.map ProcessedLine.withReturn
      ∧ run'.dispatcher = run.dispatcher
      ∧ run.fault = none ∧ run'.fault = none := by
  intro d run run'
  have hlines : run'.lines = run.lines.map (· ++ "\r") := Source.lines_withReturns hended
  have hprocessed : d.processLines run'.lines
      = ((d.processLines run.lines).1,
         (d.processLines run.lines).2.map ProcessedLine.withReturn) := by
    rw [hlines]
    exact d.processLines_map_return (Source.not_ends_in_return hplain)
  -- the text of a run, from what its lines come to
  have htext : ∀ source : List UInt8,
      (d.filter .text ⟨source, none⟩ none).text.toList
        = ended '\n' ((d.processLines (Source.lines ⟨source, none⟩)).2.map
            (·.text.toList)) := by
    intro source
    rw [← flatten_map_written]
    exact String.toList_ofList
  have hnewlines : ∀ part ∈ (d.processLines run.lines).2.map (·.text.toList),
      '\n' ∉ part := by
    intro part hpart
    obtain ⟨p, hp, rfl⟩ := List.mem_map.1 hpart
    exact newline_not_mem_processLines hvalid calls bytes p hp
  have hrun : run.text.toList = ended '\n' ((d.processLines run.lines).2.map _) :=
    htext bytes
  have hrun' : run'.text.toList = ended '\n' ((d.processLines run'.lines).2.map _) :=
    htext (withReturns 0x0d 0x0a bytes)
  have hdispatcher : run'.dispatcher = run.dispatcher := by
    show (d.processLines run'.lines).1 = (d.processLines run.lines).1
    rw [hprocessed]
  refine ⟨?_, hlines, by rw [hprocessed], hdispatcher, rfl, rfl⟩
  rw [hrun, withReturns_ended hnewlines, hrun', hprocessed, List.map_map, List.map_map]
  refine congrArg (ended '\n') (List.map_congr_left fun p _ => ?_)
  show (p.text ++ "\r").toList = _
  rw [String.toList_append]
  rfl

/-- A stream with two lines of a trace, a line that breaks off in the middle
of a character, and an empty one, read while another trace is followed. -/
theorem Config.filter_withReturns_trace :
    let bytes : List UInt8 := Text.bytes "java.io.IOException: gone\n".toList
      ++ Text.bytes "\tat a.B.c(D.java:3)\n".toList ++ [0x61, 0xe2, 0x82, 0x0a, 0x0a]
    let d := (({} : Config).dispatcher.run
      [.processLine "Unhandled exception. N.E: gone"]).1
    ({} : Config).validate = .ok {}
      ∧ bytes.getLast? = some 0x0a
      ∧ (∀ line ∈ pieces 0x0a bytes, ¬ [0x0d] <:+ line)
      ∧ (d.filter .text ⟨withReturns 0x0d 0x0a bytes, none⟩ none).text.toList
          = withReturns '\r' '\n' (d.filter .text ⟨bytes, none⟩ none).text.toList := by
  intro bytes d
  have hended : bytes.getLast? = some 0x0a := by decide +kernel
  have hplain : ∀ line ∈ pieces 0x0a bytes, ¬ [0x0d] <:+ line := by decide +kernel
  exact ⟨validate_default, hended, hplain,
    (filter_withReturns validate_default [.processLine "Unhandled exception. N.E: gone"]
      (.inr hended) hplain).1⟩

end ConsoleLinks
