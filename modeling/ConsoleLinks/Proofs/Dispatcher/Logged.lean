/-
The dispatcher with its log open: the search for a claim, written as it
goes, where each customizer that is asked can leave something in the
journal before it answers, and the dispatcher adds its own records between
asking and changing its state.

The dispatcher itself is two functions, what a line comes to
(`processLine`) and what it leaves in the log (`notes`), neither of which
knows a threshold. The law here is that the one function that does both,
at any threshold, is these two (`processLineIn_eq`): what is written has no
part in what is done, and is what the notes say.

Consumed by the program that writes its log (`Proofs/Command/Logged.lean`).
-/
import ConsoleLinks.Proofs.Dispatcher.Claims
import ConsoleLinks.Proofs.Log.Journal

namespace ConsoleLinks.Dispatcher

open Log (Journal)

-- ==================================================== the logged search

/-- Asks a customizer about a body: what it remarks on is offered to the
journal before it answers. -/
def ask (j : Journal) (c : Customizer) (body : String) : Journal × Option Customized :=
  (j.offerAll ((c.remarks body).map Log.Record.formatted), c.attempt body)

/-- Asks customizers in order, the first of them being registered at
`index`, and turns to the one that claims the body. -/
def searchIn (d : Dispatcher) (body : String) (j : Journal) (index : Nat) :
    List Customizer → Journal × Dispatcher × ProcessedLine
  | [] =>
    let j := if d.activity ≠ .idle then
        j.offer (.formatted .trace "DISPATCH" "no customizer claimed line, going idle")
      else j
    (j, d.reset, ⟨body, none, none⟩)
  | c :: rest =>
    let (j, answer) := ask j c body
    match answer with
    | some done =>
      let j := if d.activity ≠ .active index then
          j.offer (.formatted .debug "DISPATCH"
            ("customizer " ++ c.id ++ " (index=" ++ toString index
              ++ ") became active on: " ++ Text.Quoted.quote body))
        else j
      (j, { d with activity := .active index }, ⟨done.text, some c.id, done.target⟩)
    | none => searchIn d body j (index + 1) rest

/-- Asks the customizer that is being followed, and all of them if it does
not keep the body. -/
def dispatchIn (d : Dispatcher) (body : String) (j : Journal) :
    Journal × Dispatcher × ProcessedLine :=
  match d.follower? with
  | none => searchIn d body j 0 d.customizers
  | some (_, c) =>
    let (j, answer) := ask j c body
    match answer with
    | some done =>
      (j.offer (.formatted .trace "DISPATCH"
          ("active customizer " ++ c.id ++ " kept line: " ++ Text.Quoted.quote body)),
        d, ⟨done.text, some c.id, done.target⟩)
    | none => searchIn d body j 0 d.customizers

/-- Processes one line without its line break, with the log open. -/
def processLineIn (d : Dispatcher) (line : String) (j : Journal) :
    Journal × Dispatcher × ProcessedLine :=
  let (j, next, p) := d.dispatchIn (bodyOf line) j
  (j, next, { p with text := p.text ++ endingOf line })

/-- Processes lines in order, with the log open. -/
def processLinesIn (d : Dispatcher) (j : Journal) :
    List String → Journal × Dispatcher × List ProcessedLine
  | [] => (j, d, [])
  | line :: rest =>
    let (j, next, p) := d.processLineIn line j
    let (j, last, others) := next.processLinesIn j rest
    (j, last, p :: others)

-- =================================================== the search, in parts

/-- What the dispatcher itself records when a search is over. -/
def foundRemarks (d : Dispatcher) (body : String) : Option Claim → List Log.Record
  | some claim =>
    if d.activity ≠ .active claim.index then
      [.debug "DISPATCH"
        ("customizer " ++ claim.customizer.id ++ " (index=" ++ toString claim.index
          ++ ") became active on: " ++ Text.Quoted.quote body)]
    else []
  | none =>
    if d.activity ≠ .idle then
      [.trace "DISPATCH" "no customizer claimed line, going idle"]
    else []

/-- What a body comes to by the claim on it. -/
def settle (d : Dispatcher) (body : String) : Option Claim → Dispatcher × ProcessedLine
  | some claim =>
    ({ d with activity := .active claim.index },
      ⟨claim.outcome.text, some claim.customizer.id, claim.outcome.target⟩)
  | none => (d.reset, ⟨body, none, none⟩)

/-- A logged search is the search, with the remarks of those who were asked
and what the dispatcher records about its end. -/
theorem searchIn_eq (d : Dispatcher) (body : String) (customizers : List Customizer)
    (j : Journal) (index : Nat) :
    d.searchIn body j index customizers
      = (j.offerAll ((askedRemarks body customizers
            ++ d.foundRemarks body (claimFrom body index customizers)).map
              Log.Record.formatted),
         d.settle body (claimFrom body index customizers)) := by
  induction customizers generalizing j index with
  | nil =>
      unfold searchIn
      by_cases hidle : d.activity = .idle
      · simp [hidle, askedRemarks, claimFrom, foundRemarks, settle, Journal.offerAll]
      · simp only [askedRemarks, claimFrom, foundRemarks, settle, List.nil_append, ne_eq,
          hidle, not_false_eq_true, if_true]
        rfl
  | cons c rest ih =>
      rw [searchIn, ask]
      cases hatt : c.attempt body with
      | none =>
          have hasked : askedRemarks body (c :: rest)
              = c.remarks body ++ askedRemarks body rest := by
            simp [askedRemarks, Customizer.canCustomize, hatt]
          have hclaim : claimFrom body index (c :: rest)
              = claimFrom body (index + 1) rest := by
            simp [claimFrom, hatt]
          show d.searchIn body _ (index + 1) rest = _
          rw [ih, hasked, hclaim]
          simp only [List.map_append, Journal.offerAll_append]
      | some done =>
          have hasked : askedRemarks body (c :: rest) = c.remarks body := by
            simp [askedRemarks, Customizer.canCustomize, hatt]
          have hclaim : claimFrom body index (c :: rest) = some ⟨index, c, done⟩ := by
            simp [claimFrom, hatt]
          rw [hasked, hclaim, List.map_append, Journal.offerAll_append]
          by_cases hsame : d.activity = .active index
          · simp [hsame, foundRemarks, settle, Journal.offerAll]
          · simp only [foundRemarks, settle, ne_eq, hsame, not_false_eq_true, if_true]
            rfl

/-- A dispatcher that is told to follow whom it follows stays as it is. -/
theorem settle_of_keep? {d : Dispatcher} {body : String} {claim : Claim}
    (h : d.keep? body = some claim) :
    d.settle body (some claim)
      = (d, ⟨claim.outcome.text, some claim.customizer.id, claim.outcome.target⟩) := by
  obtain ⟨hactive, -, -⟩ := keep?_eq_some h
  show (({ d with activity := .active claim.index } : Dispatcher), _) = _
  rw [← hactive]

/-- What a line comes to is what its body comes to, the carriage return put
back. -/
theorem processLine_eq_settle (d : Dispatcher) (line : String) :
    d.processLine line
      = ((d.settle (bodyOf line) (d.claim? (bodyOf line))).1,
         { (d.settle (bodyOf line) (d.claim? (bodyOf line))).2 with
           text := (d.settle (bodyOf line) (d.claim? (bodyOf line))).2.text
             ++ endingOf line }) := by
  cases hclaim : d.claim? (bodyOf line) with
  | some claim => rw [processLine_of_claim hclaim]; rfl
  | none =>
      rw [processLine_of_no_claim hclaim]
      simp [settle, bodyOf_append_endingOf, reset]

-- =============================================================== the law

/-- The customizer that is followed keeps what it claims. -/
theorem keep?_of_follower? {d : Dispatcher} {index : Nat} {c : Customizer}
    (h : d.follower? = some (index, c)) (body : String) :
    d.keep? body = (c.attempt body).map (⟨index, c, ·⟩) := by
  unfold keep?
  rw [h]
  rfl

theorem claim?_of_keep?_eq_none {d : Dispatcher} {body : String}
    (h : d.keep? body = none) : d.claim? body = claimFrom body 0 d.customizers := by
  unfold claim?
  rw [h]

/-- With the log open a line comes to what it comes to without one, and the
journal is offered what the line leaves in the log. -/
theorem processLineIn_eq (d : Dispatcher) (line : String) (j : Journal) :
    d.processLineIn line j
      = (j.offerAll ((d.notes line).map Log.Record.formatted), d.processLine line) := by
  rw [processLine_eq_settle]
  unfold processLineIn dispatchIn notes
  show _ = (j.offerAll (List.map _ (match d.keep? (bodyOf line) with
    | some claim => _
    | none => _ ++ askedRemarks (bodyOf line) d.customizers
        ++ d.foundRemarks (bodyOf line) (claimFrom (bodyOf line) 0 d.customizers))), _)
  cases hfollower : d.follower? with
  | none =>
      -- nobody is followed, so only the search is made
      have hkeep : d.keep? (bodyOf line) = none := by
        unfold keep?
        rw [hfollower]
        rfl
      rw [hkeep, claim?_of_keep?_eq_none hkeep]
      dsimp only
      rw [searchIn_eq]
      rfl
  | some entry =>
      obtain ⟨index, c⟩ := entry
      have hkeep := keep?_of_follower? hfollower (bodyOf line)
      show _ = (j.offerAll (List.map _ (match d.keep? (bodyOf line) with
        | some claim => c.remarks (bodyOf line) ++ _
        | none => c.remarks (bodyOf line) ++ _ ++ _)), _)
      dsimp only
      cases hatt : c.attempt (bodyOf line) with
      | none =>
          rw [hatt, Option.map_none] at hkeep
          rw [hkeep, claim?_of_keep?_eq_none hkeep, ask, hatt]
          dsimp only
          rw [searchIn_eq]
          simp only [List.map_append, Journal.offerAll_append]
      | some done =>
          rw [hatt, Option.map_some] at hkeep
          have hclaim : d.claim? (bodyOf line) = some ⟨index, c, done⟩ := by
            unfold claim?
            rw [hkeep]
          rw [hclaim, hkeep, ask, hatt, settle_of_keep? hkeep]
          simp only [List.map_append, Journal.offerAll_append]
          rfl

/-- The same of lines in a row. -/
theorem processLinesIn_eq (d : Dispatcher) (j : Journal) (lines : List String) :
    d.processLinesIn j lines
      = (j.offerAll ((d.notesOver lines).map Log.Record.formatted),
         d.processLines lines) := by
  induction lines generalizing d j with
  | nil => rfl
  | cons line rest ih =>
      rw [processLinesIn, processLineIn_eq]
      dsimp only
      rw [ih, notesOver, List.map_append, Journal.offerAll_append]
      rfl

end ConsoleLinks.Dispatcher
