/-
The texts of targets: whichever text presents the members of a target, in any
order and among members of other names, or the array of its action and its
values, is read as the target, and what a target is written as is one of them;
a text that presents faulty members is refused (`read_spellings`).

# From texts to members

A text is read without a value being made of it first: the action is read
where it stands, and a second one is refused where its name stands. The members
are still read as they are spelled, so one step takes what `gather` takes from
one member, and by induction an object comes to what its members come to
(`readMembers_spells`). Where there is nothing to take, reading ends with a
fault, wherever in the text that is (`Meets`).
-/
import ConsoleLinks.Proofs.Json.RoundTrip
import ConsoleLinks.Proofs.Target.Members

namespace ConsoleLinks.NavigationTarget

open Json (Finds Gap Presents Spells SpellsItems SpellsMembers EndsNumber MembersReadable
  ItemsReadable skipSpace nextPart fuelFor)

-- ============================================================= what is met

/-- A step finds what there is to find, if that is sure; where there is
nothing, it ends with a fault. -/
def Meets {ε α : Type} (sure : Prop) (step : Except ε (α × List Char)) (found? : Option α)
    (rest : List Char) : Prop :=
  match found? with
  | some found => Finds sure step found rest
  | none => ∃ fault, step = .error fault

namespace Meets

variable {ε α : Type} {sure sure' : Prop} {step : Except ε (α × List Char)}
  {found? : Option α} {rest : List Char}

/-- A fault is met where nothing is sure. -/
theorem fault (hnot : ¬ sure) (h : ∃ fault, step = .error fault) :
    Meets sure step found? rest := by
  cases found? with
  | none => exact h
  | some found => exact .inr ⟨hnot, h⟩

/-- Less may be said to be sure. -/
theorem mono (h : Meets sure step found? rest) (hsure : sure' → sure) :
    Meets sure' step found? rest := by
  cases found? with
  | none => exact h
  | some found => exact Finds.mono h hsure

end Meets

-- ============================================================== the action

/-- Only an action is read as one. -/
theorem readAction_spells {v : Json} {gap word rest : List Char} (hgap : Gap gap)
    (h : Spells v word) (hrest : EndsNumber rest) :
    Meets True (readAction (gap ++ (word ++ rest))) (action? v) rest := by
  have hvalue := Json.value_spells v h hrest (fuelFor (gap ++ (word ++ rest))) maxDepth
  rw [← Json.value_gap hgap] at hvalue
  unfold readAction
  cases haction : action? v with
  | none =>
      split
      next => exact ⟨_, rfl⟩
      next => exact ⟨_, rfl⟩
      next =>
        rcases hvalue with hfound | ⟨-, fault, hfault⟩
        · rw [hfound]
          dsimp only
          rw [haction]
          exact ⟨_, rfl⟩
        · rw [hfault]
          exact ⟨_, rfl⟩
  | some a =>
      cases v with
      | str s =>
          have hfound := hvalue.eq_ok ⟨trivial, Json.le_fuelFor gap word rest⟩
          have hhead : (skipSpace (gap ++ (word ++ rest))).head? = some '"' := by
            obtain ⟨words, -, rfl⟩ := h
            rw [Json.skipSpace_gap hgap]
            rfl
          rw [hhead, hfound]
          dsimp only
          rw [haction]
          exact .inl rfl
      | _ => cases haction

-- ============================================================= the members

/-- One member is read, once its name and colon are. -/
theorem readMembers_member {fuel : Nat} {action : Option Action}
    {others : List (String × Json)} {name : String} {text behind behindName behindColon : List Char}
    (hnext : nextPart '\x7d' (action.isNone && others.isEmpty) text = .ok (true, behind))
    (hname : Json.memberName behind = .ok (name.toList, behindName))
    (hcolon : Json.colon behindName = .ok ((), behindColon)) :
    readMembers (fuel + 1) action others text
      = if name = "action" then
          if action.isSome then .error .unfitting
          else (readAction behindColon).bind fun r => readMembers fuel (some r.1) others r.2
        else
          (ofRead (Json.value (fuelFor behindColon) maxDepth behindColon)).bind fun r =>
            readMembers fuel action ((name, r.1) :: others) r.2 := by
  rw [readMembers, hnext]
  dsimp only
  rw [hname]
  dsimp only [ofRead, bind, Except.bind]
  by_cases haction : name = "action"
  · rw [if_pos haction, if_pos (congrArg String.toList haction), hcolon]
  · have hne : name.toList ≠ "action".toList := fun h => haction (String.toList_inj.1 h)
    rw [if_neg haction, if_neg hne, hcolon, String.ofList_toList]

/-- Members are read, behind those already read, as what is gathered from
them. -/
theorem readMembers_spells (found : List (String × Json)) {text : List Char}
    (action : Option Action) (others : List (String × Json))
    (h : SpellsMembers (action.isNone && others.isEmpty) found text) (rest : List Char)
    (fuel : Nat) :
    Meets (MembersReadable maxDepth found ∧ 2 * text.length ≤ fuel)
      (readMembers fuel action others (text ++ rest))
      ((gather action found).map fun g => (g.1, others.reverse ++ g.2)) rest := by
  induction found generalizing action others text fuel with
  | nil =>
      have hpos := Json.length_pos_of_spellsMembers h
      cases fuel with
      | zero => exact .fault (fun hsure => by omega) ⟨_, rfl⟩
      | succ fuel =>
          obtain ⟨gap, hgap, htext⟩ := h
          have hend : nextPart '\x7d' (action.isNone && others.isEmpty) (gap ++ '\x7d' :: rest)
              = _ := Json.nextPart_close hgap (by decide) _ rest
          rw [htext, List.append_assoc, readMembers, List.singleton_append, hend]
          exact .inl (by simp)
  | cons member found ih =>
      obtain ⟨name, v⟩ := member
      obtain ⟨_, _, gap, word, tail, hnext, hname, hcolon, hgap, hword, htail, hlength⟩ :=
        Json.member_spells h rest
      have hends := Json.endsNumber_members htail rest
      cases fuel with
      | zero => exact .fault (fun hsure => by omega) ⟨_, rfl⟩
      | succ fuel =>
          have hsure : MembersReadable maxDepth ((name, v) :: found)
                ∧ 2 * text.length ≤ fuel + 1 →
              MembersReadable maxDepth found ∧ 2 * tail.length ≤ fuel := fun h =>
            ⟨h.1.2, by omega⟩
          rw [readMembers_member hnext hname hcolon]
          unfold gather
          by_cases haction : name = "action"
          · rw [if_pos haction, if_pos haction]
            cases action with
            | some a => exact ⟨_, rfl⟩
            | none =>
                have hread := readAction_spells hgap hword hends
                show Meets _ ((readAction _).bind _) (((action? v).bind _).map _) rest
                cases hfound : action? v with
                | none =>
                    rw [hfound] at hread
                    obtain ⟨fault, hfault⟩ := hread
                    rw [hfault]
                    exact ⟨fault, rfl⟩
                | some a =>
                    rw [hfound] at hread
                    rw [Finds.eq_ok hread trivial]
                    exact (ih (some a) others htail fuel).mono hsure
          · have hvalue := Json.value_spells v hword hends
              (fuelFor (gap ++ (word ++ (tail ++ rest)))) maxDepth
            rw [← Json.value_gap hgap] at hvalue
            rw [if_neg haction, if_neg haction]
            rcases hvalue with hfound | ⟨hnot, fault, hfault⟩
            · have hflag : (action.isNone && ((name, v) :: others).isEmpty) = false := by simp
              have hrest := (ih action ((name, v) :: others) (hflag ▸ htail) fuel).mono hsure
              rw [hfound]
              simpa [ofRead, Except.bind, Option.map_map, Function.comp_def] using hrest
            · rw [hfault]
              exact .fault (fun hsure => hnot ⟨hsure.1.1, Json.le_fuelFor gap word _⟩) ⟨_, rfl⟩

-- ================================================================ the texts

/-- A target that nothing but white space follows is the text's. -/
theorem conclude_gap (t : NavigationTarget) {gap : List Char} (h : Gap gap) :
    conclude (some t) gap = .ok t := by
  unfold conclude
  dsimp only
  rw [Json.finish_gap t h]

/-- An opening brace leads to the members of an object. -/
theorem read_brace {gap : List Char} (h : Gap gap) (rest : List Char) :
    read (gap ++ '\x7b' :: rest) = (readMembers (fuelFor rest) none [] rest).bind fun g =>
      conclude (ofMembers? g.1.1 g.1.2) g.2 := by
  unfold read
  rw [Json.skipSpace_gap h, Json.skipSpace_cons (by decide)]
  rfl

/-- An opening bracket leads to an action and its values. -/
theorem read_bracket {gap : List Char} (h : Gap gap) (rest : List Char) :
    read (gap ++ '[' :: rest) = (readItems rest).bind fun g =>
      conclude (ofValues? g.1.1 g.1.2) g.2 := by
  unfold read
  rw [Json.skipSpace_gap h, Json.skipSpace_cons (by decide)]
  rfl

/-- A text that presents an object is read as the target its members come to, or is
refused if they come to none. -/
theorem read_object {found : List (String × Json)} {text : List Char}
    (h : Presents (.object found) text) :
    match ofGathered? found with
      | some t => MembersReadable maxDepth found → read text = .ok t
      | none => ∃ fault, read text = .error fault := by
  obtain ⟨gap, word, gap', hgap, ⟨tail, htail, rfl⟩, hgap', rfl⟩ := h
  have hmembers := readMembers_spells found none [] htail gap' (fuelFor (tail ++ gap'))
  have hfuel := Json.le_fuelFor [] tail gap'
  rw [List.cons_append, read_brace hgap]
  unfold ofGathered?
  cases hgather : gather none found with
  | none =>
      rw [hgather] at hmembers
      obtain ⟨fault, hfault⟩ := hmembers
      rw [hfault]
      exact ⟨fault, rfl⟩
  | some g =>
      rw [hgather] at hmembers
      dsimp only [Option.bind_some]
      cases htarget : ofMembers? g.1 g.2 with
      | some t =>
          intro hfound
          rw [Finds.eq_ok hmembers ⟨hfound, hfuel⟩]
          dsimp only [Except.bind]
          rw [List.reverse_nil, List.nil_append, htarget]
          exact conclude_gap t hgap'
      | none =>
          rcases hmembers with hok | ⟨-, fault, hfault⟩
          · rw [hok]
            dsimp only [Except.bind]
            rw [List.reverse_nil, List.nil_append, htarget]
            exact ⟨_, rfl⟩
          · rw [hfault]
            exact ⟨fault, rfl⟩

/-- A target is made of its own values in order. -/
theorem ofValues?_values (t : NavigationTarget) :
    ofValues? t.action t.values = some t := by
  have hlength : t.values.length = t.action.fields.length := by
    cases t <;> rfl
  have hgives : Gives (fun name => (t.action.fields.zip t.values).lookup name) t := by
    intro m hm
    left
    revert m
    cases t <;> simp [action, Action.fields, values, List.lookup_cons]
  unfold ofValues?
  rw [if_pos hlength]
  exact build?_of_gives hgives

/-- The reader holds the values of a target, at any depth. -/
theorem itemsReadable_values (t : NavigationTarget) (depth : Nat) :
    ItemsReadable depth t.values := by
  have hproject : ∀ project : Option String,
      Json.Readable depth ((project.map Json.str).getD .null) := by
    intro project
    cases project <;> trivial
  cases t <;> simp [values, ItemsReadable, Json.Readable, toNat_lt_size_of_word, hproject]

/-- A text that presents the array of a target's action and values is read as the
target. -/
theorem read_array {t : NavigationTarget} {text : List Char}
    (h : Presents (.array (.str t.action.name :: t.values)) text) : read text = .ok t := by
  obtain ⟨gap, word, gap', hgap, ⟨tail, htail, rfl⟩, hgap', rfl⟩ := h
  obtain ⟨word, items, hnext, hword, hitems, -⟩ := Json.item_spells htail gap'
  have hends := Json.endsNumber_items hitems gap'
  have haction : action? (.str t.action.name) = some t.action := Action.ofName?_name t.action
  have hfirst := readAction_spells Json.gap_nil hword hends
  rw [haction, List.nil_append] at hfirst
  have hfuel := Json.le_fuelFor [] items gap'
  have hrest : Json.items (fuelFor (items ++ gap')) maxDepth [.null] (items ++ gap')
      = .ok (.null :: t.values, gap') :=
    (Json.items_spells t.values [.null] hitems gap' _ maxDepth).eq_ok
      ⟨itemsReadable_values t maxDepth, hfuel⟩
  have hread : readItems (tail ++ gap') = .ok ((t.action, t.values), gap') := by
    unfold readItems
    rw [hnext]
    dsimp only
    rw [Finds.eq_ok hfirst trivial]
    dsimp only [bind, Except.bind]
    rw [hrest]
    rfl
  rw [List.cons_append, read_bracket hgap, hread]
  dsimp only [Except.bind]
  rw [ofValues?_values]
  exact conclude_gap t hgap'

-- ================================================================== the law

/-- The reader holds members that tell a target. -/
theorem membersReadable_of_tells {t : NavigationTarget}
    {own others members : List (String × Json)} (h : Tells t own others members) (depth : Nat) :
    MembersReadable depth members := by
  have hmembers : ∀ m ∈ t.members, m.2.Readable depth :=
    Json.membersReadable_iff.1 (readable_toJson t (Nat.succ_pos depth)).2
  refine Json.membersReadable_iff.2 fun m hm => ?_
  rcases List.mem_append.1 (h.order.mem_iff.1 hm) with hm | hm
  · rcases h.whole with rfl | rfl
    · exact hmembers m hm
    · exact hmembers m (mem_members_of_mem_essentials hm)
  · obtain ⟨-, -, s, hs⟩ := h.foreign m hm
    rw [hs]
    trivial

/-- A text that presents members which tell a target is read as the target. -/
theorem read_of_tells {t : NavigationTarget} {own others members : List (String × Json)}
    (h : Tells t own others members) {text : List Char} (htext : Presents (.object members) text) :
    read text = .ok t := by
  have hread := read_object htext
  rw [ofGathered?_of_tells h] at hread
  exact hread (membersReadable_of_tells h maxDepth)

/-- Every target is read back from what it is written as; from an object of the
same members in any order, perhaps without a project there is none of and among
other texts, repeated or not; and from the array of its action and its values. An
object whose members are faulty is refused. -/
theorem read_spellings (t : NavigationTarget) :
    read t.toJson.render = .ok t
      ∧ (∀ own others members text, Tells t own others members →
        Presents (.object members) text → read text = .ok t)
      ∧ (∀ text, Presents (.array (.str t.action.name :: t.values)) text → read text = .ok t)
      ∧ ∀ members text, Faulty members → Presents (.object members) text →
        ∃ fault, read text = .error fault := by
  refine ⟨?_, fun _ _ _ _ h => read_of_tells h, fun _ => read_array, ?_⟩
  · have hown : Tells t t.members [] t.members :=
      ⟨.inl rfl, (fun m hm => nomatch hm), by rw [List.append_nil]⟩
    exact read_of_tells hown (Json.presents_render (readable_toJson t (Nat.succ_pos 0)))
  · intro members text hfaulty htext
    have hread := read_object htext
    rwa [ofGathered?_of_faulty hfaulty] at hread

/-- The members of a target behind others, last to first and without a
project. -/
theorem read_spellings_reversed :
    read (Json.object [("note", .str "b"), ("note", .str "a"), ("symbol", .str "M"),
        ("column", .natural 3), ("line", .natural 7), ("file", .str "/p/A.cs"),
        ("action", .str "open_project_file")]).render
      = .ok (openProjectFile "/p/A.cs" none 7 3) := by
  have htells : Tells (openProjectFile "/p/A.cs" none 7 3)
      [("action", .str "open_project_file"), ("file", .str "/p/A.cs"), ("line", .natural 7),
        ("column", .natural 3)]
      [("symbol", .str "M"), ("note", .str "a"), ("note", .str "b")] _ :=
    ⟨.inr rfl, by simp [action, Action.fields], List.reverse_perm _⟩
  have hreadable : (Json.object [("note", .str "b"), ("note", .str "a"), ("symbol", .str "M"),
      ("column", .natural 3), ("line", .natural 7), ("file", .str "/p/A.cs"),
      ("action", .str "open_project_file")]).Readable 1 := by
    simp [Json.Readable, MembersReadable, UInt64.size]
  exact (read_spellings _).2.1 _ _ _ _ htells (Json.presents_render hreadable)

end ConsoleLinks.NavigationTarget
