/-
The dispatcher's log tells the path of its states.

# The story

`Told` says what the log has to tell of one line, by who handled the line
before and who handles this one: that a customizer became active, that it
kept the line, that the dispatcher goes idle, or nothing. `Story` carries
this over a list of calls, the handler of each line being its owner by the
ownership rule.

# The law

What a line leaves in the log is what the customizers remark on when they
are asked and then what the dispatcher says (`notes_eq`). In a state that
stands for a handler, the dispatcher says what is to be told
(`told_of_said`): the search behind a miss cannot come back to the
customizer that has just missed, so the guard in front of that record never
holds it back. A call preserves this, and so does a run
(`run_tells_story`).

At a lower threshold the log keeps of the story what tells of a change of
owner, and the states of the run count these changes too (`changesAlong`).
-/
import ConsoleLinks.Proofs.Dispatcher.Lines
import ConsoleLinks.Proofs.Dispatcher.Logged
import ConsoleLinks.Proofs.Log.OneLine
import ConsoleLinks.Proofs.Log.Threshold

namespace ConsoleLinks

open Log (Journal Record)

variable {customizers : List Customizer}

-- =========================================================== what is told

/-- What the log tells of a line, by the handler of the line before and its
own. -/
inductive Told (customizers : List Customizer) (line : String) :
    Option Nat → Option Nat → List Record → Prop
  /-- Another customizer than before handles the line. -/
  | became {last : Option Nat} {index : Nat} {c : Customizer} :
      customizers[index]? = some c →
      last ≠ some index →
      Told customizers line last (some index)
        [⟨.debug, "DISPATCH",
          "customizer " ++ c.id ++ " (index=" ++ toString index
            ++ ") became active on: " ++ Text.Quoted.quote (bodyOf line)⟩]
  /-- The same customizer handles it. -/
  | kept {index : Nat} {c : Customizer} :
      customizers[index]? = some c →
      Told customizers line (some index) (some index)
        [⟨.trace, "DISPATCH",
          "active customizer " ++ c.id ++ " kept line: "
            ++ Text.Quoted.quote (bodyOf line)⟩]
  /-- Nobody handles it any more. -/
  | idle {index : Nat} :
      Told customizers line (some index) none
        [⟨.trace, "DISPATCH", "no customizer claimed line, going idle"⟩]
  /-- Nobody handles it, as before. -/
  | nothing : Told customizers line none none []

/-- What the log tells of calls, call by call, from the handler of the line
before to the last one. Nothing is told of a reset. -/
inductive Story (customizers : List Customizer) :
    Option Nat → List Call → List (List Record) → Option Nat → Prop
  | done {last : Option Nat} : Story customizers last [] [] last
  | line {last owner final : Option Nat} {call : Call} {text : String}
      {told : List Record} {calls : List Call} {rest : List (List Record)} :
      call.line? = some text →
      Owner customizers (bodyOf text) last owner →
      Told customizers text last owner told →
      Story customizers owner calls rest final →
      Story customizers last (call :: calls) (told :: rest) final
  | reset {last final : Option Nat} {calls : List Call} {rest : List (List Record)} :
      Story customizers none calls rest final →
      Story customizers last (.reset :: calls) ([] :: rest) final

/-- One thing is to be told of a line. -/
theorem Told.unique {line : String} {last owner : Option Nat} {told told' : List Record}
    (h : Told customizers line last owner told)
    (h' : Told customizers line last owner told') : told = told' := by
  cases h with
  | became hc hnew =>
      cases h' with
      | became hc' _ =>
          rw [hc] at hc'
          injection hc' with hc'
          rw [hc']
      | kept _ => exact absurd rfl hnew
  | kept hc =>
      cases h' with
      | became _ hnew => exact absurd rfl hnew
      | kept hc' =>
          rw [hc] at hc'
          injection hc' with hc'
          rw [hc']
  | idle =>
      cases h' with
      | idle => rfl
  | nothing =>
      cases h' with
      | nothing => rfl

/-- Calls have one story. -/
theorem Story.unique {last final final' : Option Nat} {calls : List Call}
    {story story' : List (List Record)} (h : Story customizers last calls story final)
    (h' : Story customizers last calls story' final') :
    story = story' ∧ final = final' := by
  induction h generalizing story' final' with
  | done =>
      cases h' with
      | done => exact ⟨rfl, rfl⟩
  | line hline howner htold _ ih =>
      cases h' with
      | line hline' howner' htold' hrest' =>
          rw [hline] at hline'
          injection hline' with hline'
          subst hline'
          have howners := howner.unique howner'
          subst howners
          obtain ⟨hstory, hfinal⟩ := ih hrest'
          exact ⟨by rw [htold.unique htold', hstory], hfinal⟩
      | reset _ => cases hline
  | reset _ ih =>
      cases h' with
      | line hline' _ _ _ => cases hline'
      | reset hrest' =>
          obtain ⟨hstory, hfinal⟩ := ih hrest'
          exact ⟨by rw [hstory], hfinal⟩

/-- A record of the dispatcher. -/
def isDispatch (r : Record) : Bool := r.category = "DISPATCH"

/-- Customizers that leave the dispatcher's category to the dispatcher. -/
def Discreet (customizers : List Customizer) : Prop :=
  ∀ c ∈ customizers, ∀ body, ∀ r ∈ c.remarks body, isDispatch r = false

namespace Dispatcher

-- ==================================================== what a line leaves

/-- What the customizers that are asked about a body remark on. -/
def asked (d : Dispatcher) (body : String) : List Record :=
  (match d.follower? with
    | some (_, c) => c.remarks body
    | none => [])
  ++ (match d.keep? body with
    | some _ => []
    | none => askedRemarks body d.customizers)

/-- What the dispatcher itself says of a body. -/
def said (d : Dispatcher) (body : String) : List Record :=
  match d.keep? body with
  | some claim =>
    [.trace "DISPATCH"
      ("active customizer " ++ claim.customizer.id ++ " kept line: "
        ++ Text.Quoted.quote body)]
  | none => d.foundRemarks body (claimFrom body 0 d.customizers)

/-- A line leaves the one and then the other. -/
theorem notes_eq (d : Dispatcher) (line : String) :
    d.notes line = d.asked (bodyOf line) ++ d.said (bodyOf line) := by
  unfold notes asked said
  show (match d.keep? (bodyOf line) with
    | some claim => _
    | none => _ ++ askedRemarks (bodyOf line) d.customizers
        ++ d.foundRemarks (bodyOf line) (claimFrom (bodyOf line) 0 d.customizers)) = _
  cases d.keep? (bodyOf line) with
  | some claim =>
      dsimp only
      rw [List.append_nil]
      rfl
  | none => rfl

/-- Remarks come from customizers that are registered. -/
theorem exists_of_mem_askedRemarks {body : String} {r : Record}
    (h : r ∈ askedRemarks body customizers) : ∃ c ∈ customizers, r ∈ c.remarks body := by
  induction customizers with
  | nil => cases h
  | cons c rest ih =>
      rw [askedRemarks] at h
      rcases List.mem_append.1 h with h | h
      · exact ⟨c, List.mem_cons_self .., h⟩
      · split at h
        next => cases h
        next =>
          obtain ⟨c', hc', hr⟩ := ih h
          exact ⟨c', List.mem_cons_of_mem c hc', hr⟩

/-- The customizer that is followed is a registered one. -/
theorem mem_of_follower? {d : Dispatcher} {index : Nat} {c : Customizer}
    (h : d.follower? = some (index, c)) : c ∈ d.customizers := by
  unfold follower? at h
  split at h
  next => cases h
  next followed _ =>
    obtain ⟨c', hc', heq⟩ := Option.map_eq_some_iff.1 h
    injection heq with _ hc
    rw [← hc]
    exact List.mem_of_getElem? hc'

theorem exists_of_mem_asked {d : Dispatcher} {body : String} {r : Record}
    (h : r ∈ d.asked body) : ∃ c ∈ d.customizers, r ∈ c.remarks body := by
  unfold asked at h
  rcases List.mem_append.1 h with h | h
  · split at h
    next index c hfollower => exact ⟨c, mem_of_follower? hfollower, h⟩
    next => cases h
  · split at h
    next => cases h
    next => exact exists_of_mem_askedRemarks h

/-- What the dispatcher says stands under its category. -/
theorem isDispatch_of_mem_said {d : Dispatcher} {body : String} {r : Record}
    (h : r ∈ d.said body) : isDispatch r = true := by
  unfold said at h
  split at h
  next =>
    rw [List.mem_singleton.1 h]
    rfl
  next =>
    unfold foundRemarks at h
    split at h
    next =>
      split at h
      next =>
        rw [List.mem_singleton.1 h]
        rfl
      next => cases h
    next =>
      split at h
      next =>
        rw [List.mem_singleton.1 h]
        rfl
      next => cases h

/-- So among what a line leaves, the dispatcher's records are what it
says. -/
theorem filter_notes {d : Dispatcher} (hdiscreet : Discreet d.customizers) (line : String) :
    (d.notes line).filter isDispatch = d.said (bodyOf line) := by
  have hasked : (d.asked (bodyOf line)).filter isDispatch = [] := by
    apply List.filter_eq_nil_iff.2
    intro r hr
    obtain ⟨c, hc, hremarks⟩ := exists_of_mem_asked hr
    rw [hdiscreet c hc (bodyOf line) r hremarks]
    exact Bool.false_ne_true
  have hsaid : (d.said (bodyOf line)).filter isDispatch = d.said (bodyOf line) :=
    List.filter_eq_self.2 fun r hr => isDispatch_of_mem_said hr
  rw [notes_eq, List.filter_append, hasked, hsaid, List.nil_append]

-- ==================================================== one line is told of

/-- Of a line in a state that stands for a handler, the dispatcher says what
is to be told of it and its owner. -/
theorem told_of_said {d : Dispatcher} {last : Option Nat} (hact : d.activity = .ofOwner last)
    (line : String) :
    ∃ owner, Owner d.customizers (bodyOf line) last owner
      ∧ Told d.customizers line last owner (d.said (bodyOf line)) := by
  cases hclaim : d.claim? (bodyOf line) with
  | none =>
      have hkeep : d.keep? (bodyOf line) = none := by
        unfold claim? at hclaim
        cases h : d.keep? (bodyOf line) with
        | none => rfl
        | some claim =>
            rw [h] at hclaim
            cases hclaim
      rw [claim?_of_keep?_eq_none hkeep] at hclaim
      refine ⟨none, .nobody (claimFrom_eq_none hclaim), ?_⟩
      unfold said foundRemarks
      rw [hkeep, hclaim, hact]
      cases last with
      | none => exact .nothing
      | some index => exact .idle
  | some claim =>
      obtain ⟨howner, hc, hdone⟩ := claim?_eq_some_owner hact hclaim
      refine ⟨some claim.index, howner, ?_⟩
      unfold said
      cases hkeep : d.keep? (bodyOf line) with
      | some found =>
          have hsame : found = claim := by
            unfold claim? at hclaim
            rw [hkeep] at hclaim
            injection hclaim
          subst hsame
          have hlast : last = some found.index := by
            have hfollowed := (keep?_eq_some hkeep).1
            rw [hact] at hfollowed
            cases last with
            | none => cases hfollowed
            | some index =>
                injection hfollowed with hindex
                rw [hindex]
          subst hlast
          exact .kept hc
      | none =>
          -- who has just missed the line is not found by the search
          have hclaims : Claims d.customizers (bodyOf line) claim.index :=
            .of_attempt hc hdone
          have hnew : d.activity ≠ .active claim.index := fun h =>
            not_claims_of_keep?_eq_none hkeep h hclaims
          rw [claim?_of_keep?_eq_none hkeep] at hclaim
          unfold foundRemarks
          rw [hclaim]
          dsimp only
          rw [if_pos hnew]
          apply Told.became hc
          intro hlast
          rw [hact, hlast] at hnew
          exact hnew rfl

-- ================================================== calls with the log open

/-- Carries out one call with the log open. -/
def callIn (d : Dispatcher) (j : Journal) : Call → Journal × Dispatcher × Answer
  | .processLine line =>
    let (j, next, processed) := d.processLineIn line j
    (j, next, .report processed)
  | .process line =>
    let (j, next, processed) := d.processLineIn line j
    (j, next, .text processed.text)
  | .reset => (j, d.reset, .none)

/-- Carries out calls in order with the log open. -/
def runIn (d : Dispatcher) (j : Journal) : List Call → Journal × Dispatcher × List Answer
  | [] => (j, d, [])
  | call :: rest =>
    let (j, next, answer) := d.callIn j call
    let (j, last, answers) := next.runIn j rest
    (j, last, answer :: answers)

/-- What a call leaves in the log. -/
def callNotes (d : Dispatcher) (c : Call) : List Record :=
  match c.line? with
  | some line => d.notes line
  | none => []

/-- What calls leave in the log, call by call. -/
def runNotes (d : Dispatcher) : List Call → List (List Record)
  | [] => []
  | c :: rest => d.callNotes c :: (d.call c).1.runNotes rest

/-- A call with the log open is the call, and the journal is offered what it
leaves. -/
theorem callIn_eq (d : Dispatcher) (j : Journal) (c : Call) :
    d.callIn j c = (j.offerAll ((d.callNotes c).map Record.formatted), d.call c) := by
  cases c with
  | processLine line =>
      rw [callIn, processLineIn_eq]
      rfl
  | process line =>
      rw [callIn, processLineIn_eq]
      rfl
  | reset => rfl

/-- The same of calls in a row. -/
theorem runIn_eq (d : Dispatcher) (j : Journal) (calls : List Call) :
    d.runIn j calls
      = (j.offerAll ((d.runNotes calls).flatten.map Record.formatted), d.run calls) := by
  induction calls generalizing d j with
  | nil => rfl
  | cons c rest ih =>
      rw [runIn, callIn_eq]
      dsimp only
      rw [ih, runNotes, List.flatten_cons, List.map_append, Journal.offerAll_append]
      rfl

/-- What the first calls leave comes first. -/
theorem runNotes_take (d : Dispatcher) (calls : List Call) (k : Nat) :
    d.runNotes (calls.take k) = (d.runNotes calls).take k := by
  induction calls generalizing d k with
  | nil => simp [runNotes]
  | cons c rest ih =>
      cases k with
      | zero => rfl
      | succ k =>
          rw [List.take_succ_cons, runNotes, ih, runNotes, List.take_succ_cons]

-- ================================================== a run tells its story

/-- The story of calls is what the dispatcher's records among their notes
come to, from any state that stands for a handler. -/
theorem run_tells_story {customizers : List Customizer} (hdiscreet : Discreet customizers)
    (calls : List Call) (last : Option Nat) :
    ∃ final,
      Story customizers last calls
          ((runNotes ⟨customizers, .ofOwner last⟩ calls).map (·.filter isDispatch)) final
        ∧ (run ⟨customizers, .ofOwner last⟩ calls).1 = ⟨customizers, .ofOwner final⟩ := by
  induction calls generalizing last with
  | nil => exact ⟨last, .done, rfl⟩
  | cons c rest ih =>
      rw [runNotes, run_cons, callNotes]
      cases hline : c.line? with
      | none =>
          have hreset := eq_reset_of_line?_eq_none hline
          subst hreset
          obtain ⟨final, hstory, hrun⟩ := ih none
          exact ⟨final, .reset hstory, hrun⟩
      | some line =>
          obtain ⟨owner, howner, -, hnext⟩ :=
            processLine_follows (d := ⟨customizers, .ofOwner last⟩) rfl line
          obtain ⟨owner', howner', htold⟩ :=
            told_of_said (d := ⟨customizers, .ofOwner last⟩) rfl line
          have hsame := howner.unique howner'
          subst hsame
          obtain ⟨final, hstory, hrun⟩ := ih owner
          rw [call_of_line _ hline, hnext]
          refine ⟨final, ?_, hrun⟩
          rw [List.map_cons]
          dsimp only
          rw [filter_notes hdiscreet]
          exact .line hline howner htold hstory

-- =========================================================== the changes

/-- Whether a step of the state is a change of ownership to a customizer. -/
def isChange (before after : Activity) : Bool := decide (after ≠ before ∧ after ≠ .idle)

/-- How many calls of a run change the ownership to a customizer. -/
def changesAlong (d : Dispatcher) : List Call → Nat
  | [] => 0
  | c :: rest =>
    (if isChange d.activity (d.call c).1.activity then 1 else 0)
      + (d.call c).1.changesAlong rest

/-- What is told of a line at the threshold of debugging is one record when
its ownership changes to a customizer, and none otherwise. -/
theorem length_told {line : String} {last owner : Option Nat} {told : List Record}
    (h : Told customizers line last owner told) :
    (told.filter (Log.passes .debug)).length
      = if isChange (.ofOwner last) (.ofOwner owner) then 1 else 0 := by
  cases h with
  | @became _ index c hc hnew =>
      have hchange : isChange (.ofOwner last) (.ofOwner (some index)) = true := by
        apply decide_eq_true
        refine ⟨fun h => hnew ?_, nofun⟩
        cases last with
        | none => cases h
        | some before =>
            injection h with h
            rw [h]
      rw [if_pos hchange]
      rfl
  | @kept index c hc =>
      have hsame : isChange (.ofOwner (some index)) (.ofOwner (some index)) = false :=
        decide_eq_false fun h => h.1 rfl
      rw [hsame]
      rfl
  | idle => rfl
  | nothing => rfl

/-- So the story of a run has as many of these records as the run has changes
of ownership to a customizer. -/
theorem length_story {calls : List Call} {story : List (List Record)}
    {last final : Option Nat} (h : Story customizers last calls story final) :
    (story.flatten.filter (Log.passes .debug)).length
      = changesAlong ⟨customizers, .ofOwner last⟩ calls := by
  induction h with
  | done => rfl
  | @line last owner final call text told calls rest hline howner htold _ ih =>
      obtain ⟨owner', howner', -, hnext⟩ :=
        processLine_follows (d := ⟨customizers, .ofOwner last⟩) rfl text
      have hsame := howner.unique howner'
      subst hsame
      rw [List.flatten_cons, List.filter_append, List.length_append, length_told htold, ih,
        changesAlong, call_of_line _ hline, hnext]
  | @reset last final calls rest _ ih =>
      rw [List.flatten_cons, List.nil_append, ih, changesAlong]
      have hno : isChange (.ofOwner last) (.ofOwner none) = false :=
        decide_eq_false fun h => h.2 rfl
      show _ = (if isChange (.ofOwner last) (.ofOwner none) = true then 1 else 0)
        + changesAlong ⟨customizers, .ofOwner none⟩ calls
      rw [hno]
      exact (Nat.zero_add _).symm

end Dispatcher

-- ==================================================== built-in customizers

/-- Customizers of ecosystems, each with settings of its own: any of them, in
any order and as often as one likes. -/
def Customizer.builtIn (chosen : List (AnchorSettings × Ecosystem)) : List Customizer :=
  chosen.map fun (settings, e) => e.customizer settings

variable {chosen : List (AnchorSettings × Ecosystem)}

theorem Customizer.exists_of_mem_builtIn {c : Customizer} (h : c ∈ builtIn chosen) :
    ∃ settings e, c = Ecosystem.customizer settings e := by
  obtain ⟨⟨settings, e⟩, -, hc⟩ := List.mem_map.1 h
  exact ⟨settings, e, hc.symm⟩

/-- They remark under the category of the grammars. -/
theorem Customizer.discreet_builtIn (chosen : List (AnchorSettings × Ecosystem)) :
    Discreet (builtIn chosen) := by
  intro c hc body r hr
  obtain ⟨settings, e, rfl⟩ := exists_of_mem_builtIn hc
  have hcategory := (Ecosystem.of_mem_remarks hr).2.1
  unfold isDispatch
  rw [hcategory]
  decide

/-- A record that is written, and takes one line. -/
def Plain (r : Record) : Prop := r.level ≠ .off ∧ r.lines = [r.text]

theorem plain_of_oneLine {r : Record} (hlevel : r.level ≠ .off)
    (hcategory : Log.OneLine r.category) (hmessage : Log.OneLine r.message) : Plain r :=
  ⟨hlevel, Log.Record.lines_eq_singleton hcategory hmessage⟩

/-- Such records take as many lines as they are. -/
theorem lines_of_plain {records : List Record} (h : ∀ r ∈ records, Plain r) :
    records.flatMap Record.lines = records.map Record.text := by
  rw [List.map_eq_flatMap, List.flatMap_def, List.flatMap_def]
  exact congrArg List.flatten (List.map_congr_left fun r hr => (h r hr).2)

namespace Dispatcher

open Customizer (builtIn)
open Log (OneLine oneLine_quote oneLine_number)

/-- What is told of a line of input is such a record. -/
theorem plain_of_mem_told {line : String} {last owner : Option Nat} {told : List Record}
    (h : Told (builtIn chosen) line last owner told) : ∀ r ∈ told, Plain r := by
  have hid : ∀ {index : Nat} {c : Customizer},
      (builtIn chosen)[index]? = some c → OneLine c.id := by
    intro index c hc
    obtain ⟨settings, e, rfl⟩ :=
      Customizer.exists_of_mem_builtIn (List.mem_of_getElem? hc)
    show OneLine e.id
    cases e <;> decide
  have hcategory : OneLine "DISPATCH" := by decide
  intro r hr
  cases h with
  | @became _ index c hc _ =>
      rw [List.mem_singleton.1 hr]
      refine plain_of_oneLine ?_ hcategory ?_
      · exact nofun
      · exact (((((OneLine.append (by decide) (hid hc)).append (by decide)).append
          (oneLine_number index)).append (by decide)).append (oneLine_quote _))
  | @kept index c hc =>
      rw [List.mem_singleton.1 hr]
      refine plain_of_oneLine ?_ hcategory ?_
      · exact nofun
      · exact ((OneLine.append (by decide) (hid hc)).append (by decide)).append
          (oneLine_quote _)
  | idle =>
      rw [List.mem_singleton.1 hr]
      refine plain_of_oneLine ?_ hcategory (by decide)
      exact nofun
  | nothing => cases hr

/-- So is everything that a line leaves in the log. -/
theorem plain_of_mem_notes {d : Dispatcher} (hd : d.customizers = builtIn chosen)
    (line : String) : ∀ r ∈ d.notes line, Plain r := by
  intro r hr
  rw [notes_eq] at hr
  rcases List.mem_append.1 hr with hr | hr
  · obtain ⟨c, hc, hremarks⟩ := exists_of_mem_asked hr
    rw [hd] at hc
    obtain ⟨settings, e, rfl⟩ := Customizer.exists_of_mem_builtIn hc
    obtain ⟨hlevel, hcategory, hmessage⟩ := Ecosystem.of_mem_remarks hremarks
    apply plain_of_oneLine _ _ hmessage
    · rw [hlevel]
      exact nofun
    · rw [hcategory]
      decide
  · obtain ⟨last, hact⟩ := d.exists_ofOwner
    obtain ⟨owner, -, htold⟩ := told_of_said hact line
    rw [hd] at htold
    exact plain_of_mem_told htold r hr

/-- And everything that calls leave there. -/
theorem plain_of_mem_runNotes {d : Dispatcher} (hd : d.customizers = builtIn chosen)
    (calls : List Call) : ∀ r ∈ (d.runNotes calls).flatten, Plain r := by
  induction calls generalizing d with
  | nil => exact fun r hr => nomatch hr
  | cons c rest ih =>
      intro r hr
      rw [runNotes, List.flatten_cons] at hr
      rcases List.mem_append.1 hr with hr | hr
      · unfold callNotes at hr
        split at hr
        next line _ => exact plain_of_mem_notes hd line r hr
        next => cases hr
      · have hnext : (d.call c).1.customizers = builtIn chosen :=
          (customizers_run d [c]).trans hd
        exact ih hnext r hr

-- ================================================================ the law

/-- What a journal holds after calls that were made with it open. -/
theorem records_runIn (d : Dispatcher) (threshold : Verbosity) (calls : List Call) :
    (d.runIn { threshold := threshold } calls).1.records
      = (d.runNotes calls).flatten.filter (Log.passes threshold) := by
  rw [runIn_eq, Journal.offerAll_eq]
  show [] ++ List.flatMap _ _ = _
  rw [List.nil_append, Log.written_formatted, Log.kept_eq]

/-- The log of a dispatcher over built-in customizers tells the path of its
states. The calls of a stream have one story, in which each line has its
owner and is told of accordingly; at the most detailed threshold the
dispatcher's records are, after any number of these calls, what is told of
them. Whatever the lines contain, every record takes one line of the log. At
the threshold of debugging the dispatcher's lines are as many as the calls
that change the ownership to a customizer. -/
theorem log_tells_path (chosen : List (AnchorSettings × Ecosystem)) (calls : List Call) :
    let d := ofCustomizers (builtIn chosen)
    let logged (threshold : Verbosity) (calls : List Call) :=
      (d.runIn { threshold := threshold } calls).1.records
    ∃ story final,
      (∀ story' final', Story d.customizers none calls story' final'
          ↔ story' = story ∧ final' = final)
        ∧ (d.run calls).1.activity = .ofOwner final
        ∧ (∀ k, (logged .trace (calls.take k)).filter isDispatch = (story.take k).flatten)
        ∧ (∀ r ∈ logged .trace calls, r.lines = [r.text])
        ∧ (((logged .debug calls).filter isDispatch).flatMap Record.lines).length
            = d.changesAlong calls := by
  intro d logged
  have hlogged : ∀ threshold calls, logged threshold calls
      = (d.runNotes calls).flatten.filter (Log.passes threshold) :=
    records_runIn d
  obtain ⟨final, hstory, hrun⟩ :=
    run_tells_story (Customizer.discreet_builtIn chosen) calls none
  have hplain : ∀ calls, ∀ r ∈ (d.runNotes calls).flatten, Plain r :=
    fun calls => plain_of_mem_runNotes (d := d) rfl calls
  -- at the most detailed threshold nothing is lost
  have hall : ∀ calls, logged .trace calls = (d.runNotes calls).flatten := by
    intro calls
    rw [hlogged]
    apply List.filter_eq_self.2
    intro r hr
    apply decide_eq_true
    exact ⟨by cases r.level <;> decide, (hplain calls r hr).1⟩
  have hdispatch : ∀ told : List (List Record),
      told.flatten.filter isDispatch = (told.map (·.filter isDispatch)).flatten :=
    fun told => List.filter_flatten
  refine ⟨(d.runNotes calls).map (·.filter isDispatch), final, ?_, ?_, ?_, ?_, ?_⟩
  · intro story' final'
    constructor
    · intro hstory'
      exact hstory'.unique hstory
    · intro ⟨hstory', hfinal'⟩
      rw [hstory', hfinal']
      exact hstory
  · show (run ⟨builtIn chosen, .ofOwner none⟩ calls).1.activity = _
    rw [hrun]
  · intro k
    rw [hall, runNotes_take, hdispatch, List.map_take]
  · intro r hr
    rw [hall] at hr
    exact (hplain calls r hr).2
  · have hkept : (logged .debug calls).filter isDispatch
        = ((d.runNotes calls).map (·.filter isDispatch)).flatten.filter
            (Log.passes .debug) := by
      rw [hlogged, ← hdispatch, List.filter_filter, List.filter_filter]
      exact List.filter_congr fun r _ => Bool.and_comm ..
    have hlines : ∀ r ∈ (logged .debug calls).filter isDispatch, Plain r := by
      intro r hr
      rw [hlogged] at hr
      exact hplain calls r (List.mem_filter.1 (List.mem_filter.1 hr).1).1
    rw [lines_of_plain hlines, List.length_map, hkept]
    exact length_story hstory

end Dispatcher

end ConsoleLinks
