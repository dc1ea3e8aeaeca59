/-
The linking law: what a configured dispatcher makes of a line, from the
grammars to the text that is shown.

# The chain

- A location that a grammar finds is a stretch of its line
  (`Ecosystem.shows_of_detect`): the line is what stands before it, the
  place as shown, and what stands behind it, and the location's span is
  measured on just these parts.
- So the span can always be cut out again: the customizer wraps the place
  and keeps the rest (`Ecosystem.apply_of_detect`), and a recognized line
  is always claimed (`Ecosystem.canCustomize_customizer`).
- The dispatcher adds the carriage return and nothing else. Its state
  decides which ecosystem handles a line, never what the line comes to,
  so the law holds in every state (`Config.processed_links`).
-/
import ConsoleLinks.Config.Registration
import ConsoleLinks.Proofs.Anchor.Wrapping
import ConsoleLinks.Proofs.Dispatcher.Ownership
import ConsoleLinks.Proofs.Line.CSharp.Frames
import ConsoleLinks.Proofs.Line.Java.Parts
import ConsoleLinks.Proofs.Text.Position

namespace ConsoleLinks

open Text

-- ========================================================= the statement

/-- How the place that a target leads to shows in a line of an ecosystem:
what stands before it, the place itself, what stands behind it. -/
inductive Shows : Ecosystem → NavigationTarget →
    (before visible behind : List Char) → Prop
  /-- A frame with a symbol in front of the parentheses. -/
  | symbol {symbol file : String} {n : UInt32}
      {number before behind : List Char} :
      symbol.toList ++ ['('] <:+ before →
      IsPosition number n →
      Shows .java (.openSymbol symbol file n)
        before (file.toList ++ [':'] ++ number) behind
  /-- A frame that ends in a file and a line. -/
  | file {file : String} {n : UInt32} {number before behind : List Char} :
      IsPosition number n →
      Shows .csharp (.openFile file n)
        before (file.toList ++ ":line ".toList ++ number) behind
  /-- A diagnostic; its project, if it names one, stays behind the
  link. -/
  | projectFile {file : String} {project : Option String} {n column : UInt32}
      {lineNumber columnNumber range before behind : List Char} :
      IsPosition lineNumber n →
      IsPosition columnNumber column →
      CSharp.IsRange range →
      (∀ name, project = some name → CSharp.EndsInProject behind name.toList) →
      Shows .csharp (.openProjectFile file project n column)
        before
        (file.toList ++ ['('] ++ lineNumber ++ [','] ++ columnNumber ++ range
          ++ [')'])
        behind

/-- A place is never shown by nothing. -/
theorem Shows.visible_ne_nil {e : Ecosystem} {target : NavigationTarget}
    {before visible behind : List Char}
    (h : Shows e target before visible behind) : visible ≠ [] := by
  cases h with
  | symbol _ _ => simp
  | file _ => simp
  | projectFile _ _ _ _ => simp

/-- What becomes of a line that the dispatcher of a configuration is
given after other calls. -/
def Config.processed (config : Config) (calls : List Call) (line : String) :
    ProcessedLine :=
  ((config.dispatcher.run calls).1.processLine line).2

-- ===================================================== one customizer

/-- The span of a place is cut out of the line again, with an anchor
around it. -/
theorem Anchor.wrap_append (settings : AnchorSettings)
    (target : NavigationTarget) (before visible behind : List Char) :
    Anchor.wrap settings (before ++ visible ++ behind)
        (.after before visible) target
      = some (before ++ Anchor.anchor settings target visible ++ behind) := by
  have hcut : cutSpan? (Span.after before visible).start
      (Span.after before visible).stop (before ++ visible ++ behind)
        = some (before, visible, behind) :=
    cutSpan?_eq_some_iff.2 ⟨rfl, rfl, rfl⟩
  rw [Anchor.wrap_eq_map, hcut]
  rfl

namespace Ecosystem

/-- The location that a grammar finds is a stretch of the line, and shows
the target that the match leads to. -/
theorem shows_of_detect {e : Ecosystem} {line : String} {m : LineMatch}
    {place : SourceLocation} (h : e.detect line = some m)
    (hplace : m.location? = some place) :
    ∃ target before visible behind,
      NavigationTarget.ofMatch? m = some target
        ∧ line.toList = before ++ visible ++ behind
        ∧ place.span = .after before visible
        ∧ Shows e target before visible behind := by
  have hverdict : e.verdict line = .recognized m := by
    unfold detect Verdict.match? at h
    split at h
    next found hv =>
      injection h with h
      rw [hv, h]
    next => cases h
    next => cases h
  cases e with
  | java =>
      obtain ⟨l, file, number, n, hline, hsource, hn, rfl⟩ :=
        Java.of_verdict_location hverdict hplace
      injection hplace with hplace
      subst hplace
      refine ⟨.openSymbol (String.ofList l.symbol) (String.ofList file) n,
        l.opening ++ l.symbol ++ ['('], file ++ [':'] ++ number,
        [')'] ++ l.packaging, rfl, ?_, rfl, ?_⟩
      · rw [← hline, Java.AtLine.text, hsource]
        simp
      · have hshows : Shows .java
            (.openSymbol (String.ofList l.symbol) (String.ofList file) n)
            (l.opening ++ l.symbol ++ ['('])
            ((String.ofList file).toList ++ [':'] ++ number)
            ([')'] ++ l.packaging) :=
          .symbol ⟨l.opening, by simp⟩ (position?_eq_some_iff.1 hn)
        simpa using hshows
  | csharp =>
      rcases CSharp.of_verdict_location hverdict hplace with
        ⟨f, n, hf, hn, rfl⟩ | ⟨d, n, column, hd, hn, hcolumn, rfl⟩
      · injection hplace with hplace
        subst hplace
        refine ⟨.openFile (String.ofList f.file) n, f.opening,
          f.file ++ ":line ".toList ++ f.number, f.closing, rfl, ?_, rfl, ?_⟩
        · rw [← CSharp.Frame.text_of_ofLine? hf, CSharp.Frame.text]
          simp
        · have hshows : Shows .csharp (.openFile (String.ofList f.file) n)
              f.opening
              ((String.ofList f.file).toList ++ ":line ".toList ++ f.number)
              f.closing :=
            .file (position?_eq_some_iff.1 hn)
          simpa using hshows
      · injection hplace with hplace
        subst hplace
        obtain ⟨hrange, behind, hline, hproject⟩ := CSharp.Diagnostic.of_ofLine? hd
        refine ⟨.openProjectFile (String.ofList d.file)
            (d.project.map String.ofList) n column,
          d.indent, d.file ++ d.place, behind, rfl, ?_, rfl, ?_⟩
        · rw [hline]
          simp
        · have hnamed : ∀ name, d.project.map String.ofList = some name →
              CSharp.EndsInProject behind name.toList := by
            intro name hname
            obtain ⟨q, hq, rfl⟩ := Option.map_eq_some_iff.1 hname
            simpa using hproject q hq
          have hshows : Shows .csharp
              (.openProjectFile (String.ofList d.file)
                (d.project.map String.ofList) n column)
              d.indent
              ((String.ofList d.file).toList ++ ['('] ++ d.lineNumber ++ [',']
                ++ d.columnNumber ++ d.range ++ [')'])
              behind :=
            .projectFile (position?_eq_some_iff.1 hn)
              (position?_eq_some_iff.1 hcolumn) hrange hnamed
          simpa [CSharp.Diagnostic.place] using hshows

/-- What a customizer makes of a line that its grammar recognizes: the
line itself where it shows no place, else the line with the place inside
an anchor. Nothing that is recognized is given up. -/
theorem apply_of_detect {e : Ecosystem} {line : String} {m : LineMatch}
    (settings : AnchorSettings) (h : e.detect line = some m) :
    m.apply settings line = some ⟨line, none⟩
      ∨ ∃ target before visible behind,
          m.apply settings line
              = some ⟨String.ofList (before
                  ++ Anchor.anchor settings target visible ++ behind), some target⟩
            ∧ line.toList = before ++ visible ++ behind
            ∧ Shows e target before visible behind := by
  cases hplace : m.location? with
  | none =>
      refine Or.inl ?_
      unfold LineMatch.apply
      rw [hplace]
  | some place =>
      obtain ⟨target, before, visible, behind, htarget, hline, hspan, hshows⟩ :=
        shows_of_detect h hplace
      refine Or.inr ⟨target, before, visible, behind, ?_, hline, hshows⟩
      simp only [LineMatch.apply, hplace, htarget, hline, hspan,
        Anchor.wrap_append, Option.map_some]

/-- A customizer claims just the lines that its grammar recognizes. -/
theorem canCustomize_customizer (e : Ecosystem) (settings : AnchorSettings)
    (line : String) :
    (e.customizer settings).canCustomize line = (e.detect line).isSome := by
  have hattempt : (e.customizer settings).attempt line
      = (e.detect line).bind (LineMatch.apply settings line) := rfl
  rw [Customizer.canCustomize, hattempt]
  cases h : e.detect line with
  | none => rfl
  | some m =>
      rcases apply_of_detect settings h with happly | ⟨_, _, _, _, happly, -⟩
      · simp [happly]
      · simp [happly]

end Ecosystem

-- ===================================================== the dispatcher

namespace Config

/-- A customizer of the configuration's dispatcher is the customizer of a
registered ecosystem. -/
theorem registered_of_getElem? {config : Config} {index : Nat} {c : Customizer}
    (h : config.dispatcher.customizers[index]? = some c) :
    ∃ e ∈ config.registered, c = e.customizer config.anchor := by
  obtain ⟨e, he, hc⟩ := List.mem_map.1 (List.mem_of_getElem? h)
  exact ⟨e, he, hc.symm⟩

/-- Somebody claims a body exactly where a registered grammar recognizes
it. -/
theorem exists_claims_iff (config : Config) (body : String) :
    (∃ index, Claims config.dispatcher.customizers body index)
      ↔ ∃ e ∈ config.registered, (e.detect body).isSome = true := by
  constructor
  · rintro ⟨index, c, hc, hclaims⟩
    obtain ⟨e, he, rfl⟩ := registered_of_getElem? hc
    exact ⟨e, he, by rw [← e.canCustomize_customizer config.anchor]; exact hclaims⟩
  · rintro ⟨e, he, hdetect⟩
    have hmem : e.customizer config.anchor ∈ config.dispatcher.customizers :=
      List.mem_map.2 ⟨e, he, rfl⟩
    obtain ⟨index, hindex⟩ := List.getElem?_of_mem hmem
    exact ⟨index, _, hindex, by rw [e.canCustomize_customizer]; exact hdetect⟩

/-- What becomes of a line has an owner, whatever calls came before. -/
theorem handled_processed (config : Config) (calls : List Call) (line : String) :
    ∃ last owner,
      Owner config.dispatcher.customizers (bodyOf line) last owner
        ∧ Handled config.dispatcher.customizers line owner
            (config.processed calls line) := by
  obtain ⟨reports, last, -, hcalls, -⟩ :=
    Dispatcher.run_follows config.dispatcher.customizers calls none
  have hrun : (config.dispatcher.run calls).1
      = ⟨config.dispatcher.customizers, .ofOwner last⟩ := congrArg Prod.fst hcalls
  obtain ⟨owner, howner, hhandled, -⟩ :=
    Dispatcher.processLine_follows
      (d := ⟨config.dispatcher.customizers, .ofOwner last⟩) rfl line
  refine ⟨last, owner, howner, ?_⟩
  rw [processed, hrun]
  exact hhandled

/-- A text with something behind it, character by character. -/
private theorem toList_ofList_append (text : List Char) (behind : String) :
    (String.ofList text ++ behind).toList = text ++ behind.toList := by
  rw [String.toList_append, String.toList_ofList]

/-- The linking law. In every state that calls can lead a configured
dispatcher to, a line has a customizer exactly when a registered grammar
recognizes it without its carriage return, and no recognized line is
given up for the place it shows. A line without a target comes back as it
was; a line with one comes back with the place in an anchor, and all else
in front of it and behind it as it was. -/
theorem processed_links (config : Config) (calls : List Call) (line : String) :
    (bodyOf line ++ endingOf line = line
        ∧ (endingOf line = "\r"
            ∨ endingOf line = "" ∧ ¬ ['\r'] <:+ line.toList))
      ∧ ((config.processed calls line).customizer.isSome = true
          ↔ ∃ e ∈ config.registered, (e.detect (bodyOf line)).isSome = true)
      ∧ (∀ e m, Ecosystem.detect e (bodyOf line) = some m →
          (m.apply config.anchor (bodyOf line)).isSome = true)
      ∧ ((config.processed calls line).target = none
            ∧ (config.processed calls line).text = line
          ∨ ∃ target before visible behind,
              (config.processed calls line).target = some target
                ∧ (bodyOf line).toList = before ++ visible ++ behind
                ∧ visible ≠ []
                ∧ (config.processed calls line).text.toList
                    = before
                        ++ "<a href='".toList ++ Anchor.payload config.anchor target
                        ++ "'>".toList ++ visible ++ "</a>".toList
                        ++ behind ++ (endingOf line).toList
                ∧ ∃ e ∈ config.registered,
                    (config.processed calls line).customizer = some e.id
                      ∧ Shows e target before visible behind) := by
  obtain ⟨last, owner, howner, hhandled⟩ := config.handled_processed calls line
  have hline := bodyOf_append_endingOf line
  refine ⟨⟨hline, endingOf_eq line⟩, ?_, ?_, ?_⟩
  · rw [← config.exists_claims_iff]
    generalize config.processed calls line = processed at hhandled ⊢
    cases hhandled with
    | byCustomizer hc hdone =>
        exact ⟨fun _ => ⟨_, .of_attempt hc hdone⟩, fun _ => rfl⟩
    | byNobody =>
        cases howner with
        | nobody hnone =>
            exact ⟨fun h => (by cases h), fun ⟨index, hclaims⟩ =>
              absurd hclaims (hnone index)⟩
  · intro e m hdetect
    rcases Ecosystem.apply_of_detect config.anchor hdetect with
      happly | ⟨_, _, _, _, happly, -⟩
    · rw [happly]; rfl
    · rw [happly]; rfl
  · generalize config.processed calls line = processed at hhandled ⊢
    cases hhandled with
    | byNobody => exact Or.inl ⟨rfl, rfl⟩
    | byCustomizer hc hdone =>
        obtain ⟨e, he, rfl⟩ := registered_of_getElem? hc
        obtain ⟨m, hdetect, hattempt⟩ := Option.bind_eq_some_iff.1 hdone
        rcases Ecosystem.apply_of_detect config.anchor hdetect with
          happly | ⟨target, before, visible, behind, happly, hbody, hshows⟩
        · have hdone' := Option.some.inj (happly.symm.trans hattempt)
          subst hdone'
          exact Or.inl ⟨rfl, hline⟩
        · have hdone' := Option.some.inj (happly.symm.trans hattempt)
          subst hdone'
          refine Or.inr ⟨target, before, visible, behind, rfl, hbody,
            hshows.visible_ne_nil, ?_, e, he, rfl, hshows⟩
          refine (toList_ofList_append _ (endingOf line)).trans ?_
          unfold Anchor.anchor Anchor.openingTag Anchor.closingTag
          simp only [List.append_assoc]

end Config

end ConsoleLinks
