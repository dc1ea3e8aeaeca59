/-
The ownership of lines: who handles a line of a stream, said without the
dispatcher, and the law that every run of a dispatcher follows it.

# The rule

`Owner` names the handler of one body from the handler of the line
before: that one if it claims the body, else the least registration
index that claims it, else nobody. `Course` carries the rule over a list
of calls, with what becomes of each line (`Handled`) and the handler that
the calls leave behind.

# The law

The dispatcher keeps no handler but an `Activity`; the two correspond by
`Activity.ofOwner`, and the customizers never change. One line preserves
the correspondence (`processLine_follows`), whatever the four exits of
the search did, and so does a run (`run_follows`). A course is determined
by its calls (`Course.unique`), so what a run does is all that the rule
allows (`run_iff_course`).
-/
import ConsoleLinks.Proofs.Dispatcher.Calls
import ConsoleLinks.Proofs.Dispatcher.Claims

namespace ConsoleLinks

variable {customizers : List Customizer}

-- ============================================================ the rule

/-- Who handles a body, given who handled the line before. -/
inductive Owner (customizers : List Customizer) (body : String) :
    Option Nat → Option Nat → Prop
  /-- The handler of the line before claims this one too. -/
  | keeps {index : Nat} :
      Claims customizers body index →
      Owner customizers body (some index) (some index)
  /-- It does not, and `index` is the first of all that do. -/
  | first {last : Option Nat} {index : Nat} :
      (∀ before, last = some before → ¬ Claims customizers body before) →
      Claims customizers body index →
      (∀ before < index, ¬ Claims customizers body before) →
      Owner customizers body last (some index)
  /-- Nobody claims the body. -/
  | nobody {last : Option Nat} :
      (∀ index, ¬ Claims customizers body index) →
      Owner customizers body last none

/-- What becomes of a line, given who handles it. -/
inductive Handled (customizers : List Customizer) (line : String) :
    Option Nat → ProcessedLine → Prop
  /-- The handler's text with the carriage return behind it, its id and
  its target. -/
  | byCustomizer {index : Nat} {c : Customizer} {done : Customized} :
      customizers[index]? = some c →
      c.attempt (bodyOf line) = some done →
      Handled customizers line (some index)
        ⟨done.text ++ endingOf line, some c.id, done.target⟩
  /-- The line itself. -/
  | byNobody : Handled customizers line none ⟨line, none, none⟩

/-- The course of a stream: what becomes of the line of each call, and
who handled the last line when the calls are over. A reset lets a stream
begin anew. -/
inductive Course (customizers : List Customizer) :
    Option Nat → List Call → List (Option ProcessedLine) → Option Nat → Prop
  | done {last : Option Nat} : Course customizers last [] [] last
  | line {last owner final : Option Nat} {call : Call} {text : String}
      {processed : ProcessedLine} {calls : List Call}
      {reports : List (Option ProcessedLine)} :
      call.line? = some text →
      Owner customizers (bodyOf text) last owner →
      Handled customizers text owner processed →
      Course customizers owner calls reports final →
      Course customizers last (call :: calls) (some processed :: reports) final
  | reset {last final : Option Nat} {calls : List Call}
      {reports : List (Option ProcessedLine)} :
      Course customizers none calls reports final →
      Course customizers last (.reset :: calls) (none :: reports) final

/-- The customizer id reported for the latest line since the last reset;
`none` where there is no such line. -/
def latestId (reports : List (Option ProcessedLine)) : Option String :=
  reports.getLast?.join.bind (·.customizer)

/-- The calls that end a trace: a reset, or a line that nobody claims. -/
def EndsTrace (customizers : List Customizer) (call : Call) : Prop :=
  call = .reset
    ∨ ∃ line, call.line? = some line
        ∧ ∀ index, ¬ Claims customizers (bodyOf line) index

/-- The activity of a dispatcher after a line with the given handler. -/
def Activity.ofOwner : Option Nat → Activity
  | none => .idle
  | some index => .active index

-- ============================================== the rule is a function

/-- A body has one owner. -/
theorem Owner.unique {body : String} {last owner owner' : Option Nat}
    (h : Owner customizers body last owner)
    (h' : Owner customizers body last owner') : owner = owner' := by
  cases h with
  | keeps hclaims =>
      cases h' with
      | keeps _ => rfl
      | first hnot _ _ => exact absurd hclaims (hnot _ rfl)
      | nobody hnone => exact absurd hclaims (hnone _)
  | @first _ index hnot hclaims hleast =>
      cases h' with
      | keeps hkeeps => exact absurd hkeeps (hnot _ rfl)
      | @first _ index' _ hclaims' hleast' =>
          have hge : ¬ index' < index := fun hlt => hleast _ hlt hclaims'
          have hle : ¬ index < index' := fun hlt => hleast' _ hlt hclaims
          have heq : index = index' := by omega
          rw [heq]
      | nobody hnone => exact absurd hclaims (hnone _)
  | nobody hnone =>
      cases h' with
      | keeps hclaims => exact absurd hclaims (hnone _)
      | first _ hclaims _ => exact absurd hclaims (hnone _)
      | nobody _ => rfl

/-- A handler makes one thing of a line. -/
theorem Handled.unique {line : String} {owner : Option Nat}
    {processed processed' : ProcessedLine}
    (h : Handled customizers line owner processed)
    (h' : Handled customizers line owner processed') : processed = processed' := by
  cases h with
  | byCustomizer hc hdone =>
      cases h' with
      | byCustomizer hc' hdone' =>
          rw [hc] at hc'
          injection hc' with hc'
          subst hc'
          rw [hdone] at hdone'
          injection hdone' with hdone'
          rw [hdone']
  | byNobody =>
      cases h' with
      | byNobody => rfl

/-- Calls take one course. -/
theorem Course.unique {last final final' : Option Nat} {calls : List Call}
    {reports reports' : List (Option ProcessedLine)}
    (h : Course customizers last calls reports final)
    (h' : Course customizers last calls reports' final') :
    reports = reports' ∧ final = final' := by
  induction h generalizing reports' final' with
  | done =>
      cases h' with
      | done => exact ⟨rfl, rfl⟩
  | line hline howner hhandled _ ih =>
      cases h' with
      | line hline' howner' hhandled' hrest' =>
          rw [hline] at hline'
          injection hline' with hline'
          subst hline'
          have howners := howner.unique howner'
          subst howners
          have hprocessed := hhandled.unique hhandled'
          obtain ⟨hreports, hfinal⟩ := ih hrest'
          exact ⟨by rw [hprocessed, hreports], hfinal⟩
      | reset _ => cases hline
  | reset _ ih =>
      cases h' with
      | line hline' _ _ _ => cases hline'
      | reset hrest' =>
          obtain ⟨hreports, hfinal⟩ := ih hrest'
          exact ⟨by rw [hreports], hfinal⟩

-- ================================================= one line follows it

namespace Dispatcher

/-- The claim that decides a body is its owner's. -/
theorem claim?_eq_some_owner {d : Dispatcher} {body : String} {claim : Claim}
    {last : Option Nat} (hact : d.activity = .ofOwner last)
    (h : d.claim? body = some claim) :
    Owner d.customizers body last (some claim.index)
      ∧ d.customizers[claim.index]? = some claim.customizer
      ∧ claim.customizer.attempt body = some claim.outcome := by
  unfold claim? at h
  cases hkeep : d.keep? body with
  | some kept =>
      rw [hkeep] at h
      injection h with h
      subst h
      obtain ⟨hfollowed, hc, hdone⟩ := keep?_eq_some hkeep
      refine ⟨?_, hc, hdone⟩
      cases last with
      | none =>
          rw [hact] at hfollowed
          cases hfollowed
      | some index =>
          rw [hact] at hfollowed
          injection hfollowed with hindex
          rw [hindex]
          exact .keeps (.of_attempt hc hdone)
  | none =>
      rw [hkeep] at h
      obtain ⟨index, hindex, hc, hdone, hleast⟩ := claimFrom_eq_some h
      rw [Nat.zero_add] at hindex
      rw [hindex]
      refine ⟨.first ?_ (.of_attempt hc hdone) hleast, hc, hdone⟩
      intro before hlast
      rw [hlast] at hact
      exact not_claims_of_keep?_eq_none hkeep hact

/-- Where no claim decides a body, nobody owns it. -/
theorem claim?_eq_none_owner {d : Dispatcher} {body : String}
    (last : Option Nat) (h : d.claim? body = none) :
    Owner d.customizers body last none := by
  unfold claim? at h
  cases hkeep : d.keep? body with
  | some kept => rw [hkeep] at h; cases h
  | none =>
      rw [hkeep] at h
      exact .nobody (claimFrom_eq_none h)

/-- One line: the dispatcher lets the owner handle it, and remembers
just that. -/
theorem processLine_follows {d : Dispatcher} {last : Option Nat}
    (hact : d.activity = .ofOwner last) (line : String) :
    ∃ owner, Owner d.customizers (bodyOf line) last owner
      ∧ Handled d.customizers line owner (d.processLine line).2
      ∧ (d.processLine line).1 = ⟨d.customizers, .ofOwner owner⟩ := by
  cases hclaim : d.claim? (bodyOf line) with
  | some claim =>
      obtain ⟨howner, hc, hdone⟩ := claim?_eq_some_owner hact hclaim
      rw [processLine_of_claim hclaim]
      exact ⟨some claim.index, howner, .byCustomizer hc hdone, rfl⟩
  | none =>
      have howner := claim?_eq_none_owner last hclaim
      rw [processLine_of_no_claim hclaim]
      exact ⟨none, howner, .byNobody, rfl⟩

/-- The id of whoever is followed is the one reported for the line. -/
theorem active?_of_handled {line : String} {owner : Option Nat}
    {processed : ProcessedLine} (h : Handled customizers line owner processed) :
    active? ⟨customizers, .ofOwner owner⟩ = processed.customizer := by
  cases h with
  | byCustomizer hc hdone =>
      simp [active?, follower?, Activity.ofOwner, hc]
  | byNobody => rfl

-- ================================================== runs follow it too

/-- A run from any state that stands for a handler takes the course of
its calls; the state it ends in stands for the last handler, and names
the customizer reported last. -/
theorem run_follows (customizers : List Customizer) (calls : List Call) :
    ∀ (last : Option Nat),
      ∃ reports final,
        Course customizers last calls reports final
          ∧ run ⟨customizers, .ofOwner last⟩ calls
              = (⟨customizers, .ofOwner final⟩,
                 List.zipWith Call.answer calls reports)
          ∧ active? ⟨customizers, .ofOwner final⟩
              = if reports = [] then active? ⟨customizers, .ofOwner last⟩
                else latestId reports := by
  induction calls with
  | nil =>
      intro last
      exact ⟨[], last, .done, rfl, rfl⟩
  | cons call rest ih =>
      intro last
      cases hline : call.line? with
      | none =>
          have hreset := eq_reset_of_line?_eq_none hline
          subst hreset
          obtain ⟨reports, final, hcourse, hrun, hactive⟩ := ih none
          refine ⟨none :: reports, final, .reset hcourse, ?_, ?_⟩
          · have hcall : call ⟨customizers, .ofOwner last⟩ .reset
                = (⟨customizers, .ofOwner none⟩, .none) := rfl
            rw [run_cons, hcall, hrun]
            rfl
          · rw [hactive]
            cases reports with
            | nil => rfl
            | cons r reports => simp [latestId]
      | some line =>
          obtain ⟨owner, howner, hhandled, hnext⟩ :=
            processLine_follows (d := ⟨customizers, .ofOwner last⟩) rfl line
          obtain ⟨reports, final, hcourse, hrun, hactive⟩ := ih owner
          refine ⟨some _ :: reports, final,
            .line hline howner hhandled hcourse, ?_, ?_⟩
          · rw [run_cons, call_of_line _ hline, hnext, hrun]
            rfl
          · rw [hactive]
            cases reports with
            | nil => exact active?_of_handled hhandled
            | cons r reports => simp [latestId]

end Dispatcher

/-- A handler that a course leaves behind is a registered one. -/
theorem Course.lt_length {last final : Option Nat} {calls : List Call}
    {reports : List (Option ProcessedLine)}
    (h : Course customizers last calls reports final)
    (hlast : ∀ index, last = some index → index < customizers.length) :
    ∀ index, final = some index → index < customizers.length := by
  induction h with
  | done => exact hlast
  | line _ _ hhandled _ ih =>
      refine ih fun index howner => ?_
      cases hhandled with
      | byCustomizer hc _ =>
          injection howner with hindex
          rw [← hindex]
          exact (List.getElem?_eq_some_iff.1 hc).1
      | byNobody => cases howner
  | reset _ ih => exact ih fun index hnone => by cases hnone

namespace Dispatcher

/-- A call that ends the trace leaves the dispatcher as it was at the
start of the stream. -/
theorem call_of_endsTrace {call : Call} (h : EndsTrace customizers call)
    (last : Option Nat) :
    ((⟨customizers, .ofOwner last⟩ : Dispatcher).call call).1
      = ofCustomizers customizers := by
  rcases h with rfl | ⟨line, hline, hnone⟩
  · rfl
  · obtain ⟨owner, howner, -, hnext⟩ :=
      processLine_follows (d := ⟨customizers, .ofOwner last⟩) rfl line
    have hnobody : owner = none := howner.unique (.nobody hnone)
    rw [call_of_line _ hline, hnext, hnobody]
    rfl

-- ============================================================= the law

/-- Every run from the start of a stream is the one course that the
ownership rule allows: it gives the answers of that course and ends in
the state that stands for its last handler, which is idle or a registered
index, and names the customizer reported for the latest line since the
last reset. Whatever follows a reset or a line that nobody claims goes as
at the start of a stream. -/
theorem run_iff_course (customizers : List Customizer) (calls : List Call) :
    ∃ reports last,
      (∀ reports' last', Course customizers none calls reports' last'
          ↔ reports' = reports ∧ last' = last)
        ∧ ((ofCustomizers customizers).run calls).2
            = List.zipWith Call.answer calls reports
        ∧ ((ofCustomizers customizers).run calls).1
            = ⟨customizers, .ofOwner last⟩
        ∧ (∀ index,
            ((ofCustomizers customizers).run calls).1.activity = .active index →
            index < customizers.length)
        ∧ ((ofCustomizers customizers).run calls).1.active? = latestId reports
        ∧ ∀ call later, EndsTrace customizers call →
            (ofCustomizers customizers).run (calls ++ call :: later)
              = (((ofCustomizers customizers).run later).1,
                 ((ofCustomizers customizers).run (calls ++ [call])).2
                   ++ ((ofCustomizers customizers).run later).2) := by
  obtain ⟨reports, last, hcourse, hrun, hactive⟩ :=
    run_follows customizers calls none
  have hstart : run (ofCustomizers customizers) calls = _ := hrun
  refine ⟨reports, last, ?_, ?_, ?_, ?_, ?_, ?_⟩
  · intro reports' last'
    constructor
    · intro hcourse'
      exact hcourse'.unique hcourse
    · rintro ⟨rfl, rfl⟩
      exact hcourse
  · rw [hstart]
  · rw [hstart]
  · intro index hindex
    rw [hstart] at hindex
    refine hcourse.lt_length (fun i hi => by cases hi) index ?_
    cases last with
    | none => cases hindex
    | some i =>
        injection hindex with hindex
        rw [hindex]
  · rw [hstart, hactive]
    cases reports with
    | nil => rfl
    | cons r reports => rfl
  · intro call later hends
    have hsplit : calls ++ call :: later = (calls ++ [call]) ++ later := by simp
    have hfresh : ((ofCustomizers customizers).run (calls ++ [call])).1
        = ofCustomizers customizers := by
      rw [run_append, hstart, run_cons]
      exact call_of_endsTrace hends last
    rw [hsplit, run_append, hfresh]

end Dispatcher

end ConsoleLinks
