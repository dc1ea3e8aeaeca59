/-
Which configurations are accepted, and which fault of one that is not is
reported.

# The checks

Validation looks at five items in a fixed order (`Item.inOrder`), and each
is sound or not by a condition that is said here without the program:
characters by their code points, names by their shape, ids by their
positions in the list (`Config.Sound`).

# The report

`Config.defect?` is the first answer of one check for each item
(`defect?_eq_findSome?`). A check answers nothing when its item is sound and
what is to be reported of it otherwise (`check?_eq_none_iff`,
`check?_eq_some_iff`), so accepting and reporting are the two ends of one
search (`Config.validate_names_first_fault`).
-/
import ConsoleLinks.Proofs.Config.Validation
import ConsoleLinks.Proofs.Text.Classes

namespace ConsoleLinks

open Text

-- =============================================================== shapes

/-- A scheme: an ASCII letter, then ASCII letters, digits, `+`, `.` and `-`,
and one colon at the end. -/
def SchemeShape (text : String) : Prop :=
  ∃ first rest, text.toList = first :: rest ++ [':'] ∧ AsciiLetter first
    ∧ ∀ c ∈ rest, AsciiLetter c ∨ AsciiDigit c ∨ c = '+' ∨ c = '.' ∨ c = '-'

/-- The name of a call: an ASCII letter, `_` or `$`, then any of these and
ASCII digits. -/
def CallShape (text : String) : Prop :=
  ∃ first rest, text.toList = first :: rest
    ∧ (AsciiLetter first ∨ first = '_' ∨ first = '$')
    ∧ ∀ c ∈ rest, (AsciiLetter c ∨ AsciiDigit c) ∨ c = '_' ∨ c = '$'

theorem isScheme_iff_shape {text : String} : isScheme text = true ↔ SchemeShape text := by
  rw [isScheme_iff]
  unfold SchemeShape
  simp only [isAlpha_iff, isSchemeChar, Bool.or_eq_true, isAlphanum_iff,
    decide_eq_true_eq, or_assoc]

theorem isCallName_iff_shape {text : String} :
    isCallName text = true ↔ CallShape text := by
  rw [isCallName_iff]
  unfold CallShape
  simp only [isAlpha_iff, isAlphanum_iff]

-- ========================================================= repeated ids

/-- The first entry of a list that is equal to an earlier one: those in front
of it are all different, and it is one of them. -/
def FirstRepeated (ids : List String) (id : String) : Prop :=
  ∃ front back, ids = front ++ id :: back ∧ front.Nodup ∧ id ∈ front

/-- Texts that are all different, and none of those seen before. -/
def AllNew (seen texts : List String) : Prop := texts.Nodup ∧ ∀ t ∈ texts, t ∉ seen

/-- A text that is passed counts as seen behind it. -/
theorem allNew_cons_iff {seen rest : List String} {t : String} :
    AllNew seen (t :: rest) ↔ t ∉ seen ∧ AllNew (t :: seen) rest := by
  unfold AllNew
  rw [List.nodup_cons]
  constructor
  · intro ⟨⟨hfresh, hnodup⟩, hnew⟩
    refine ⟨hnew t (List.mem_cons_self ..), hnodup, fun t' ht' hseen => ?_⟩
    rcases List.mem_cons.1 hseen with rfl | hseen
    · exact hfresh ht'
    · exact hnew t' (List.mem_cons_of_mem _ ht') hseen
  · intro ⟨ht, hnodup, hnew⟩
    refine ⟨⟨fun hmem => hnew t hmem (List.mem_cons_self ..), hnodup⟩, fun t' ht' => ?_⟩
    rcases List.mem_cons.1 ht' with rfl | ht'
    · exact ht
    · exact fun hseen => hnew t' ht' (List.mem_cons_of_mem _ hseen)

/-- So a text is found among both wherever it is counted. -/
theorem mem_passed_iff {seen front : List String} {t text : String} :
    (text ∈ front ∨ text ∈ t :: seen) ↔ (text ∈ t :: front ∨ text ∈ seen) := by
  rw [List.mem_cons, List.mem_cons]
  exact or_left_comm.trans or_assoc.symm

/-- The search for a repeated text passes texts that are all new, and stops at
one that is not. -/
theorem firstRepeated?_eq_some_iff {seen texts : List String} {text : String} :
    firstRepeated? seen texts = some text
      ↔ ∃ front back, texts = front ++ text :: back ∧ AllNew seen front
          ∧ (text ∈ front ∨ text ∈ seen) := by
  induction texts generalizing seen with
  | nil => simp [firstRepeated?]
  | cons t rest ih =>
      unfold firstRepeated?
      by_cases ht : t ∈ seen
      · rw [if_pos ht]
        constructor
        · intro h
          injection h with h
          subst h
          exact ⟨[], rest, rfl, ⟨List.nodup_nil, by simp⟩, Or.inr ht⟩
        · intro ⟨front, back, htexts, hnew, _⟩
          cases front with
          | nil =>
              injection htexts with hhead
              rw [hhead]
          | cons t' front =>
              -- what has been seen cannot be passed
              injection htexts with hhead
              rw [hhead] at ht
              exact absurd ht (allNew_cons_iff.1 hnew).1
      · rw [if_neg ht, ih]
        constructor
        · intro ⟨front, back, hrest, hnew, hold⟩
          exact ⟨t :: front, back, congrArg (t :: ·) hrest, allNew_cons_iff.2 ⟨ht, hnew⟩,
            mem_passed_iff.1 hold⟩
        · intro ⟨front, back, htexts, hnew, hold⟩
          cases front with
          | nil =>
              injection htexts with hhead
              rw [hhead] at ht
              exact absurd hold (by simp [ht])
          | cons t' front =>
              injection htexts with hhead hrest
              subst hhead
              exact ⟨front, back, hrest, (allNew_cons_iff.1 hnew).2, mem_passed_iff.2 hold⟩

/-- It finds nothing when all texts are new. -/
theorem firstRepeated?_eq_none_iff {seen texts : List String} :
    firstRepeated? seen texts = none ↔ AllNew seen texts := by
  induction texts generalizing seen with
  | nil => simp [firstRepeated?, AllNew]
  | cons t rest ih =>
      unfold firstRepeated?
      rw [allNew_cons_iff]
      by_cases ht : t ∈ seen
      · simp [ht]
      · rw [if_neg ht, ih]
        simp [ht]

/-- Behind nothing, all texts that are different are new. -/
theorem allNew_nil_iff {texts : List String} : AllNew [] texts ↔ texts.Nodup := by
  simp [AllNew]

-- ============================================================ the items

/-- What validation looks at. -/
inductive Item where
  | scheme
  | call (action : Action)
  | customizers
deriving DecidableEq, Repr

/-- The order of the checks. -/
def Item.inOrder : List Item :=
  [.scheme, .call .openSymbol, .call .openFile, .call .openProjectFile, .customizers]

/-- What a message opens with. -/
def Defect.subject : Defect → String
  | scheme _ => "anchor.scheme"
  | call .openSymbol _ => "anchor.open_symbol_call"
  | call .openFile _ => "anchor.open_file_call"
  | call .openProjectFile _ => "anchor.open_project_file_call"
  | repeated id => "customizer '" ++ id ++ "'"

/-- Every message opens with what it is about. -/
theorem Defect.message_eq_subject_append (d : Defect) :
    ∃ rest, d.message = d.subject ++ " " ++ rest := by
  cases d with
  | scheme text =>
      refine ⟨"must be a scheme name followed by ':', got " ++ Text.Quoted.quote text, ?_⟩
      rw [← String.append_assoc]
      rfl
  | call action name =>
      refine ⟨"must be an identifier, got " ++ Text.Quoted.quote name, ?_⟩
      rw [← String.append_assoc]
      cases action <;> rfl
  | repeated id =>
      refine ⟨"is listed more than once", ?_⟩
      unfold message subject
      simp only [String.append_assoc]
      rfl

namespace Config

/-- Whether an item of a configuration is as it should be. -/
def Sound (c : Config) : Item → Prop
  | .scheme => SchemeShape c.anchor.scheme
  | .call action => CallShape (c.anchor.call action)
  | .customizers => c.ids.Nodup

/-- What there is to report of an item at fault. -/
inductive Reports (c : Config) : Item → Defect → Prop
  | scheme : Reports c .scheme (.scheme c.anchor.scheme)
  | call (action : Action) : Reports c (.call action) (.call action (c.anchor.call action))
  | customizers {id : String} (h : FirstRepeated c.ids id) :
      Reports c .customizers (.repeated id)

/-- Every item is as it should be. -/
def Safe (c : Config) : Prop := ∀ item ∈ Item.inOrder, c.Sound item

/-- A defect that is reported of the first item at fault. -/
def FirstFault (c : Config) (d : Defect) : Prop :=
  ∃ before item after, Item.inOrder = before ++ item :: after
    ∧ (∀ passed ∈ before, c.Sound passed) ∧ ¬ c.Sound item ∧ c.Reports item d

-- ============================================================= the checks

/-- The check of one item: what is to be reported of it, or nothing. -/
def check? (c : Config) : Item → Option Defect
  | .scheme =>
    if isScheme c.anchor.scheme then none else some (.scheme c.anchor.scheme)
  | .call action =>
    if isCallName (c.anchor.call action) then none
    else some (.call action (c.anchor.call action))
  | .customizers => (firstRepeated? [] c.ids).map .repeated

/-- The defect of a configuration is what the first check reports that
reports anything. -/
theorem defect?_eq_findSome? (c : Config) : c.defect? = Item.inOrder.findSome? c.check? := by
  unfold defect? Item.inOrder Action.all
  simp only [List.findSome?_cons, List.findSome?_nil, List.find?_cons, List.find?_nil, check?]
  cases isScheme c.anchor.scheme with
  | false => rfl
  | true =>
      cases isCallName (c.anchor.call .openSymbol) with
      | false => rfl
      | true =>
          cases isCallName (c.anchor.call .openFile) with
          | false => rfl
          | true =>
              cases isCallName (c.anchor.call .openProjectFile) with
              | false => rfl
              | true => cases firstRepeated? [] c.ids <;> rfl

/-- A check reports nothing of a sound item. -/
theorem check?_eq_none_iff {c : Config} {item : Item} :
    c.check? item = none ↔ c.Sound item := by
  cases item with
  | scheme => simp [check?, Sound, isScheme_iff_shape]
  | call action => simp [check?, Sound, isCallName_iff_shape]
  | customizers => simp [check?, Sound, firstRepeated?_eq_none_iff, allNew_nil_iff]

/-- Of any other it reports what there is to report. -/
theorem check?_eq_some_iff {c : Config} {item : Item} {d : Defect} :
    c.check? item = some d ↔ ¬ c.Sound item ∧ c.Reports item d := by
  rw [← check?_eq_none_iff]
  cases item with
  | scheme =>
      rw [check?]
      cases isScheme c.anchor.scheme with
      | true => simp
      | false =>
          constructor
          · intro h
            injection h with h
            subst h
            exact ⟨nofun, .scheme⟩
          · intro ⟨_, hreports⟩
            cases hreports
            rfl
  | call action =>
      rw [check?]
      cases isCallName (c.anchor.call action) with
      | true => simp
      | false =>
          constructor
          · intro h
            injection h with h
            subst h
            exact ⟨nofun, .call action⟩
          · intro ⟨_, hreports⟩
            cases hreports
            rfl
  | customizers =>
      rw [check?, Option.map_eq_some_iff]
      constructor
      · intro ⟨id, hid, hd⟩
        obtain ⟨front, back, hids, hnew, hold⟩ := firstRepeated?_eq_some_iff.1 hid
        rw [hid, ← hd]
        exact ⟨nofun, .customizers
          ⟨front, back, hids, allNew_nil_iff.1 hnew, by simpa using hold⟩⟩
      · intro ⟨_, hreports⟩
        cases hreports with
        | customizers h =>
            obtain ⟨front, back, hids, hnodup, hmem⟩ := h
            exact ⟨_, firstRepeated?_eq_some_iff.2
              ⟨front, back, hids, allNew_nil_iff.2 hnodup, Or.inl hmem⟩, rfl⟩

theorem defect?_eq_none_iff {c : Config} : c.defect? = none ↔ c.Safe := by
  rw [defect?_eq_findSome?, List.findSome?_eq_none_iff]
  simp only [check?_eq_none_iff]
  rfl

theorem defect?_eq_some_iff {c : Config} {d : Defect} :
    c.defect? = some d ↔ c.FirstFault d := by
  rw [defect?_eq_findSome?, List.findSome?_eq_some_iff]
  simp only [check?_eq_none_iff, check?_eq_some_iff]
  constructor
  · intro ⟨before, item, after, horder, hitem, hbefore⟩
    exact ⟨before, item, after, horder, hbefore, hitem⟩
  · intro ⟨before, item, after, horder, hbefore, hitem⟩
    exact ⟨before, item, after, horder, hitem, hbefore⟩

-- ================================================================ the law

/-- A configuration is accepted exactly when all its items are sound: the
scheme, the three calls, and the ids, of entries that take part or not. Any
other is refused with the fault of its first item at fault, of which there
is one: the scheme or call as it stands, or the id of the first entry that
is equal to an earlier one; and the message opens with what it is about. -/
theorem validate_names_first_fault (c : Config) :
    (c.validate = .ok c ↔ c.Safe)
      ∧ (∀ d, c.validate = .error d ↔ c.FirstFault d)
      ∧ (c.Safe ∨ ∃ d, c.FirstFault d)
      ∧ ∀ d : Defect, ∃ rest, d.message = d.subject ++ " " ++ rest := by
  rw [← defect?_eq_none_iff]
  simp only [← defect?_eq_some_iff]
  unfold validate
  cases hdefect : c.defect? with
  | none =>
      refine ⟨by simp, fun d => by simp, Or.inl rfl, Defect.message_eq_subject_append⟩
  | some fault =>
      refine ⟨by simp, fun d => by simp, Or.inr ⟨fault, rfl⟩,
        Defect.message_eq_subject_append⟩

end Config

end ConsoleLinks
