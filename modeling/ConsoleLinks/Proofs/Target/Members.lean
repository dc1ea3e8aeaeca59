/-
The members of a target's object: what they come to, in whatever order they
stand and whatever stands among them.

# What counts

Members are read one by one (`gather`), but what they come to depends only on
the values that each name is given (`valuesOf`, `ofGathered?_eq`): the action's
name must be given one value, and the names of the action's own values at most
one each. So other names do not count, and neither does the order.

# What a target needs

A target is built from values looked up by name, and no name but the project
may be without one (`Gives`). An object that lacks a value, or has two where
one counts (`Faulty`), gives no target.

Consumed by the texts of targets (`Spelling.lean`).
-/
import ConsoleLinks.Proofs.Target.Json

namespace ConsoleLinks.NavigationTarget

-- ================================================================ the values

/-- The values that members give to a name. -/
def valuesOf (name : String) (members : List (String × Json)) : List Json :=
  (members.filter (·.1 = name)).map (·.2)

section

variable {name other : String} {members : List (String × Json)}

theorem valuesOf_cons_self (name : String) (value : Json) (members : List (String × Json)) :
    valuesOf name ((name, value) :: members) = value :: valuesOf name members := by
  simp [valuesOf]

theorem valuesOf_cons_of_ne (h : other ≠ name) (value : Json)
    (members : List (String × Json)) :
    valuesOf name ((other, value) :: members) = valuesOf name members := by
  simp [valuesOf, h]

theorem valuesOf_append (name : String) (members members' : List (String × Json)) :
    valuesOf name (members ++ members') = valuesOf name members ++ valuesOf name members' := by
  simp [valuesOf]

theorem valuesOf_eq_nil_iff : valuesOf name members = [] ↔ ∀ m ∈ members, m.1 ≠ name := by
  simp [valuesOf]

/-- Members that all have other names do not count. -/
theorem valuesOf_filter_ne (h : name ≠ other) (members : List (String × Json)) :
    valuesOf name (members.filter (·.1 ≠ other)) = valuesOf name members := by
  unfold valuesOf
  rw [List.filter_filter]
  congr 1
  apply List.filter_congr
  intro m _
  by_cases hm : m.1 = name
  · simp [hm, h]
  · simp [hm]

/-- The first value is the one that is looked up. -/
theorem head?_valuesOf (name : String) (members : List (String × Json)) :
    (valuesOf name members).head? = members.lookup name := by
  induction members with
  | nil => rfl
  | cons m members ih =>
      obtain ⟨other, value⟩ := m
      by_cases h : other = name
      · rw [h, valuesOf_cons_self, List.lookup_cons_self]
        rfl
      · have hne : (name == other) = false := by simp [Ne.symm h]
        rw [valuesOf_cons_of_ne h, ih, List.lookup_cons, hne]

theorem length_valuesOf (name : String) (members : List (String × Json)) :
    (valuesOf name members).length = members.countP (·.1 = name) := by
  rw [valuesOf, List.length_map, List.countP_eq_length_filter]

/-- To a name given at most one value neither the order of members matters nor
what stands among them for others. -/
theorem valuesOf_of_perm {own others : List (String × Json)} (h : members.Perm (own ++ others))
    (hothers : ∀ m ∈ others, m.1 ≠ name) (hone : (valuesOf name own).length ≤ 1) :
    valuesOf name members = valuesOf name own := by
  have hperm : (valuesOf name members).Perm (valuesOf name (own ++ others)) :=
    (h.filter _).map _
  rw [valuesOf_append, valuesOf_eq_nil_iff.2 hothers, List.append_nil] at hperm
  cases hvalues : valuesOf name own with
  | nil =>
      rw [hvalues] at hperm
      exact List.perm_nil.1 hperm
  | cons value values =>
      rw [hvalues, List.length_cons] at hone
      have hnil : values = [] := List.eq_nil_of_length_eq_zero (by omega)
      rw [hvalues, hnil] at hperm
      rw [hnil]
      exact List.perm_singleton.1 hperm

end

-- ========================================================= what is gathered

/-- The action and the other members, taken one by one behind what has been
read. There is nothing to take from a second action, or from something else in
its place. -/
def gather : Option Action → List (String × Json) →
    Option (Option Action × List (String × Json))
  | action, [] => some (action, [])
  | action, (name, value) :: members =>
    if name = "action" then
      if action.isSome then none
      else (action? value).bind fun found => gather (some found) members
    else (gather action members).map fun g => (g.1, (name, value) :: g.2)

/-- Behind the action all other members are taken. -/
theorem gather_some (a : Action) (members : List (String × Json)) :
    gather (some a) members
      = if valuesOf "action" members = [] then some (some a, members) else none := by
  induction members with
  | nil => rfl
  | cons m members ih =>
      obtain ⟨name, value⟩ := m
      unfold gather
      by_cases hname : name = "action"
      · rw [if_pos hname, hname, valuesOf_cons_self]
        simp
      · rw [if_neg hname, valuesOf_cons_of_ne hname, ih]
        split <;> rfl

/-- One action must be among the members, if any, and is taken from them. -/
theorem gather_none (members : List (String × Json)) :
    gather none members = match valuesOf "action" members with
      | [] => some (none, members)
      | [value] => (action? value).map fun a => (some a, members.filter (·.1 ≠ "action"))
      | _ => none := by
  induction members with
  | nil => rfl
  | cons m members ih =>
      obtain ⟨name, value⟩ := m
      unfold gather
      by_cases hname : name = "action"
      · subst hname
        rw [if_pos rfl, valuesOf_cons_self]
        cases hvalues : valuesOf "action" members with
        | nil =>
            have hothers : (("action", value) :: members).filter (·.1 ≠ "action") = members := by
              rw [List.filter_cons_of_neg (by simp), List.filter_eq_self]
              intro m hm
              simpa using valuesOf_eq_nil_iff.1 hvalues m hm
            dsimp only
            rw [hothers]
            cases action? value with
            | none => rfl
            | some a => exact (gather_some a members).trans (if_pos hvalues)
        | cons value' values => simp [gather_some, hvalues]
      · rw [if_neg hname, ih, valuesOf_cons_of_ne hname]
        split
        next => rfl
        next value' _ => cases action? value' <;> simp [hname]
        next => rfl

/-- The names of an action's values are not the action's own. -/
theorem ne_action_of_mem_fields {a : Action} {name : String} (h : name ∈ a.fields) :
    name ≠ "action" := by
  have hall : ∀ a : Action, ∀ name ∈ a.fields, name ≠ "action" := by
    intro a
    cases a <;> decide
  exact hall a name h

/-- A target is built from the values of the names its action goes with. -/
theorem build?_congr {a : Action} {field field' : String → Option Json}
    (h : ∀ name ∈ a.fields, field name = field' name) : build? field a = build? field' a := by
  cases a <;> simp_all [build?, Action.fields]

/-- What is taken from members that an action has been taken from. -/
theorem ofMembers?_others (a : Action) (members : List (String × Json)) :
    ofMembers? (some a) (members.filter (·.1 ≠ "action"))
      = if ∀ name ∈ a.fields, (valuesOf name members).length ≤ 1 then
          build? (fun name => (valuesOf name members).head?) a
        else none := by
  have hvalues : ∀ name ∈ a.fields,
      valuesOf name (members.filter (·.1 ≠ "action")) = valuesOf name members :=
    fun name hname => valuesOf_filter_ne (ne_action_of_mem_fields hname) members
  have hbuild : build? ((members.filter (·.1 ≠ "action")).lookup ·) a
      = build? (fun name => (valuesOf name members).head?) a :=
    build?_congr fun name hname => by rw [← head?_valuesOf, hvalues name hname]
  have hcount : (a.fields.all fun name =>
        decide ((members.filter (·.1 ≠ "action")).countP (·.1 = name) ≤ 1)) = true
      ↔ ∀ name ∈ a.fields, (valuesOf name members).length ≤ 1 := by
    rw [List.all_eq_true]
    constructor
    · intro h name hname
      rw [← hvalues name hname, length_valuesOf]
      exact of_decide_eq_true (h name hname)
    · intro h name hname
      rw [← length_valuesOf, hvalues name hname]
      exact decide_eq_true (h name hname)
  by_cases honce : ∀ name ∈ a.fields, (valuesOf name members).length ≤ 1
  · rw [if_pos honce, ← hbuild]
    exact if_pos (hcount.2 honce)
  · rw [if_neg honce]
    exact if_neg fun h => honce (hcount.1 h)

/-- The target that members come to. -/
def ofGathered? (members : List (String × Json)) : Option NavigationTarget :=
  (gather none members).bind fun g => ofMembers? g.1 g.2

/-- It depends only on the values that each name is given. -/
theorem ofGathered?_eq (members : List (String × Json)) :
    ofGathered? members = match valuesOf "action" members with
      | [value] => (action? value).bind fun a =>
        if ∀ name ∈ a.fields, (valuesOf name members).length ≤ 1 then
          build? (fun name => (valuesOf name members).head?) a
        else none
      | _ => none := by
  unfold ofGathered?
  rw [gather_none]
  match valuesOf "action" members with
  | [] => rfl
  | [value] =>
      dsimp only
      cases action? value with
      | none => rfl
      | some a => exact ofMembers?_others a members
  | _ :: _ :: _ => rfl

-- ======================================================== what a target needs

/-- The members of a target's object. -/
def members (t : NavigationTarget) : List (String × Json) :=
  ("action", .str t.action.name) :: t.action.fields.zip t.values

/-- The members that a target needs: a project only if there is one. -/
def essentials (t : NavigationTarget) : List (String × Json) :=
  match t with
  | openProjectFile _ none _ _ => t.members.filter (·.1 ≠ "project")
  | _ => t.members

theorem mem_members_of_mem_essentials {t : NavigationTarget} {m : String × Json}
    (h : m ∈ t.essentials) : m ∈ t.members := by
  unfold essentials at h
  split at h
  next => exact (List.mem_filter.1 h).1
  next => exact h

/-- Names are looked up as the values of a target; `null` may be missing. -/
def Gives (field : String → Option Json) (t : NavigationTarget) : Prop :=
  ∀ m ∈ t.action.fields.zip t.values, field m.1 = some m.2 ∨ m.2 = .null ∧ field m.1 = none

/-- A target is built from what gives its values. -/
theorem build?_of_gives {t : NavigationTarget} {field : String → Option Json}
    (h : Gives field t) : build? field t.action = some t := by
  unfold Gives at h
  cases t with
  | openSymbol symbol file line =>
      simp_all [action, Action.fields, values, build?, Json.text?, word?_natural]
  | openFile file line =>
      simp_all [action, Action.fields, values, build?, Json.text?, word?_natural]
  | openProjectFile file project line column =>
      have hproject : project? ((field "project").getD .null) = some project := by
        rcases h ("project", (project.map Json.str).getD .null)
          (by simp [action, Action.fields, values]) with hgiven | ⟨hnull, hmissing⟩
        · rw [hgiven]
          exact project?_getD project
        · dsimp only at hnull hmissing
          rw [hmissing, ← project?_getD project, hnull]
          rfl
      simp_all [action, Action.fields, values, build?, Json.text?, word?_natural]

/-- Nothing is built without a value that only the project can be without. -/
theorem build?_eq_none {a : Action} {name : String} {field : String → Option Json}
    (hname : name ∈ a.fields) (hneeded : name ≠ "project") (h : field name = none) :
    build? field a = none := by
  cases a <;> simp only [Action.fields, List.mem_cons, List.not_mem_nil, or_false] at hname
  · rcases hname with rfl | rfl | rfl <;> simp [build?, h]
  · rcases hname with rfl | rfl <;> simp [build?, h]
  · rcases hname with rfl | rfl | rfl | rfl
    · simp [build?, h]
    · exact absurd rfl hneeded
    · simp [build?, h]
    · simp [build?, h]

/-- The names of a target's values are those its action goes with. -/
theorem exists_value_of_mem_fields {t : NavigationTarget} {name : String}
    (h : name ∈ t.action.fields) : ∃ value, (name, value) ∈ t.action.fields.zip t.values := by
  cases t <;> simp only [action, Action.fields, values, List.mem_cons, List.not_mem_nil,
    or_false] at h ⊢
  · rcases h with rfl | rfl | rfl <;> simp
  · rcases h with rfl | rfl <;> simp
  · rcases h with rfl | rfl | rfl | rfl <;> simp

/-- The members of a target name its action once, and give each of its values
once, but may leave out a project there is none of. -/
theorem valuesOf_own {t : NavigationTarget} {own : List (String × Json)}
    (h : own = t.members ∨ own = t.essentials) :
    valuesOf "action" own = [.str t.action.name]
      ∧ ∀ m ∈ t.action.fields.zip t.values,
        valuesOf m.1 own = [m.2] ∨ m.2 = .null ∧ valuesOf m.1 own = [] := by
  have hmembers : valuesOf "action" t.members = [.str t.action.name]
      ∧ ∀ m ∈ t.action.fields.zip t.values, valuesOf m.1 t.members = [m.2] := by
    cases t <;> simp [members, action, Action.fields, values, valuesOf]
  have hall : valuesOf "action" t.members = [.str t.action.name]
      ∧ ∀ m ∈ t.action.fields.zip t.values,
        valuesOf m.1 t.members = [m.2] ∨ m.2 = .null ∧ valuesOf m.1 t.members = [] :=
    ⟨hmembers.1, fun m hm => .inl (hmembers.2 m hm)⟩
  rcases h with rfl | rfl
  · exact hall
  · unfold essentials
    split
    next file line column =>
      simp [members, action, Action.fields, values, valuesOf]
    next => exact hall

/-- Members that tell a target: its own, perhaps without a project there is none
of, and others that have other names and are texts, in any order. -/
structure Tells (t : NavigationTarget) (own others members : List (String × Json)) : Prop where
  whole : own = t.members ∨ own = t.essentials
  foreign : ∀ m ∈ others, m.1 ≠ "action" ∧ m.1 ∉ t.action.fields ∧ ∃ s, m.2 = .str s
  order : members.Perm (own ++ others)

/-- They come to the target. -/
theorem ofGathered?_of_tells {t : NavigationTarget} {own others members : List (String × Json)}
    (h : Tells t own others members) : ofGathered? members = some t := by
  obtain ⟨haction, hvalues⟩ := valuesOf_own h.whole
  have hfirst : valuesOf "action" members = [.str t.action.name] := by
    rw [← haction]
    exact valuesOf_of_perm h.order (fun m hm => (h.foreign m hm).1) (by simp [haction])
  have hfields : ∀ name value, (name, value) ∈ t.action.fields.zip t.values →
      valuesOf name members = [value] ∨ value = .null ∧ valuesOf name members = [] := by
    intro name value hm
    have hforeign : ∀ m ∈ others, m.1 ≠ name := fun m hm' heq =>
      (h.foreign m hm').2.1 (heq ▸ (List.of_mem_zip hm).1)
    rcases hvalues _ hm with hgiven | ⟨hnull, hmissing⟩
    · left
      rw [← hgiven]
      exact valuesOf_of_perm h.order hforeign (by simp [hgiven])
    · right
      refine ⟨hnull, ?_⟩
      rw [← hmissing]
      exact valuesOf_of_perm h.order hforeign (by simp [hmissing])
  have hone : ∀ name ∈ t.action.fields, (valuesOf name members).length ≤ 1 := by
    intro name hname
    obtain ⟨value, hm⟩ := exists_value_of_mem_fields hname
    rcases hfields name value hm with hgiven | ⟨-, hmissing⟩
    · simp [hgiven]
    · simp [hmissing]
  have hgives : Gives (fun name => (valuesOf name members).head?) t := by
    rintro ⟨name, value⟩ hm
    rcases hfields name value hm with hgiven | ⟨hnull, hmissing⟩
    · exact .inl (by simp [hgiven])
    · exact .inr ⟨hnull, by simp [hmissing]⟩
  have hname : action? (.str t.action.name) = some t.action := Action.ofName?_name t.action
  rw [ofGathered?_eq, hfirst]
  dsimp only
  rw [hname]
  exact (if_pos hone).trans (build?_of_gives hgives)

-- ============================================================ what is faulty

/-- What keeps members from coming to a target. -/
inductive Faulty (members : List (String × Json)) : Prop where
  /-- No action is named. -/
  | noAction (h : ∀ m ∈ members, m.1 ≠ "action")
  /-- The action is named twice. -/
  | actionTwice (h : 2 ≤ members.countP (·.1 = "action"))
  /-- A value of the action is given twice. -/
  | valueTwice {a : Action} {name : String} (ha : ("action", .str a.name) ∈ members)
      (hname : name ∈ a.fields) (h : 2 ≤ members.countP (·.1 = name))
  /-- A value of the action is missing, and it is not a project. -/
  | noValue {a : Action} {name : String} (ha : ("action", .str a.name) ∈ members)
      (hname : name ∈ a.fields) (hneeded : name ≠ "project") (h : ∀ m ∈ members, m.1 ≠ name)

/-- Faulty members come to nothing. -/
theorem ofGathered?_of_faulty {members : List (String × Json)} (h : Faulty members) :
    ofGathered? members = none := by
  rw [ofGathered?_eq]
  -- A fault in a value shows only where one action is named, and then the action it names.
  have hone : ∀ {a : Action}, ("action", .str a.name) ∈ members → ∀ value,
      valuesOf "action" members = [value] → action? value = some a := by
    intro a ha value hvalue
    have hmem : Json.str a.name ∈ valuesOf "action" members :=
      List.mem_map.2 ⟨_, List.mem_filter.2 ⟨ha, by simp⟩, rfl⟩
    rw [hvalue] at hmem
    rw [← List.mem_singleton.1 hmem]
    exact Action.ofName?_name a
  match hvalues : valuesOf "action" members with
  | [] => rfl
  | _ :: _ :: _ => rfl
  | [value] =>
      dsimp only
      cases h with
      | noAction h =>
          rw [valuesOf_eq_nil_iff.2 h] at hvalues
          cases hvalues
      | actionTwice h =>
          rw [← length_valuesOf, hvalues] at h
          exact absurd h (Nat.lt_irrefl 1)
      | @valueTwice a name ha hname h =>
          rw [hone ha value hvalues]
          refine if_neg fun honce => ?_
          have hcount := honce name hname
          rw [length_valuesOf] at hcount
          omega
      | @noValue a name ha hname hneeded h =>
          rw [hone ha value hvalues]
          show (if _ then build? _ a else none) = none
          rw [build?_eq_none hname hneeded (by rw [valuesOf_eq_nil_iff.2 h]; rfl)]
          exact ite_self none

end ConsoleLinks.NavigationTarget
