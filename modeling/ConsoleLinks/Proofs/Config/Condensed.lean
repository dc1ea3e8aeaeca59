/-
The customizers of a configuration that matter: of the entries that take
part and name an ecosystem, the first one of each id
(`Config.condensed`). The dispatcher of the whole list does exactly what
the dispatcher of these entries does (`Config.run_condensed`).

An entry that takes no part or names no ecosystem is never registered, and
one whose id has been registered before stands behind its equal, where
nothing reaches it (`Proofs/Dispatcher/Shadowed.lean`).
-/
import ConsoleLinks.Config.Registration
import ConsoleLinks.Proofs.Dispatcher.Shadowed

namespace ConsoleLinks

-- ====================================================== the first of each

/-- The first entry of each id among those that take part and name an
ecosystem, in order; ids in `seen` have had theirs. -/
def CustomizerToggle.condense (seen : List String) :
    List CustomizerToggle → List CustomizerToggle
  | [] => []
  | t :: rest =>
    if t.enabled ∧ t.id ∈ Ecosystem.all.map Ecosystem.id ∧ t.id ∉ seen then
      t :: condense (t.id :: seen) rest
    else condense seen rest

/-- The configuration with only the entries that matter. -/
def Config.condensed (c : Config) : Config :=
  { c with customizers := CustomizerToggle.condense [] c.customizers }

/-- Of two entries for one ecosystem the first that takes part counts. -/
example : CustomizerToggle.condense []
    [⟨"java", false⟩, ⟨"csharp", true⟩, ⟨"Java", true⟩, ⟨"java", true⟩, ⟨"csharp", true⟩]
      = [⟨"csharp", true⟩, ⟨"java", true⟩] := by
  decide

/-- The first occurrences of a list's elements, in order, without those in
`seen`. -/
def firstsBeyond {α : Type} [DecidableEq α] (seen : List α) : List α → List α
  | [] => []
  | a :: rest =>
    if a ∈ seen then firstsBeyond seen rest else a :: firstsBeyond (a :: seen) rest

/-- A search finds the same among the first occurrences, if it finds nothing
in what has been seen. -/
theorem findSome?_firstsBeyond {α β : Type} [DecidableEq α] (f : α → Option β)
    {seen : List α} (hseen : ∀ a ∈ seen, f a = none) (l : List α) :
    (firstsBeyond seen l).findSome? f = l.findSome? f := by
  induction l generalizing seen with
  | nil => rfl
  | cons a rest ih =>
      unfold firstsBeyond
      by_cases ha : a ∈ seen
      · rw [if_pos ha, List.findSome?_cons, hseen a ha]
        exact ih hseen
      · rw [if_neg ha, List.findSome?_cons, List.findSome?_cons]
        cases hfound : f a with
        | some b => rfl
        | none =>
            apply ih
            intro a' hmem
            rcases List.mem_cons.1 hmem with heq | hmem
            · rw [heq, hfound]
            · exact hseen a' hmem

-- ========================================================= registration

namespace Ecosystem

theorem id_injective {e e' : Ecosystem} (h : e.id = e'.id) : e = e' := by
  have hid := ofId?_id e
  rw [h, ofId?_id] at hid
  exact (Option.some.inj hid).symm

theorem ofId?_eq_none {name : String} (h : name ∉ all.map id) : ofId? name = none := by
  refine List.find?_eq_none.2 fun e he hname => ?_
  have hid : e.id = name := by simpa using hname
  exact h (hid ▸ List.mem_map_of_mem he)

end Ecosystem

/-- The ecosystems that a list of entries registers. -/
def CustomizerToggle.ecosystems (toggles : List CustomizerToggle) : List Ecosystem :=
  ((toggles.filter (·.enabled)).map (·.id)).filterMap Ecosystem.ofId?

/-- The entries that matter register the first occurrences of what all of
them register. -/
theorem CustomizerToggle.ecosystems_condense (seen : List Ecosystem)
    (toggles : List CustomizerToggle) :
    ecosystems (condense (seen.map Ecosystem.id) toggles)
      = firstsBeyond seen (ecosystems toggles) := by
  induction toggles generalizing seen with
  | nil => rfl
  | cons t rest ih =>
      obtain ⟨name, enabled⟩ := t
      cases enabled with
      | false =>
          have hrest : ecosystems (⟨name, false⟩ :: rest) = ecosystems rest := rfl
          rw [hrest, ← ih seen, condense, if_neg (by simp)]
      | true =>
          by_cases hname : name ∈ Ecosystem.all.map Ecosystem.id
          · obtain ⟨e, -, rfl⟩ := List.mem_map.1 hname
            have hcons : ∀ toggles, ecosystems (⟨e.id, true⟩ :: toggles)
                = e :: ecosystems toggles := by
              intro toggles
              exact List.filterMap_cons_some (Ecosystem.ofId?_id e)
            rw [hcons, firstsBeyond, condense]
            by_cases hseen : e ∈ seen
            · have hid : e.id ∈ seen.map Ecosystem.id := List.mem_map_of_mem hseen
              rw [if_pos hseen, if_neg (by simp [hid]), ih seen]
            · have hid : e.id ∉ seen.map Ecosystem.id := by
                intro hmem
                obtain ⟨e', he', heq⟩ := List.mem_map.1 hmem
                exact hseen (Ecosystem.id_injective heq ▸ he')
              rw [if_neg hseen, if_pos ⟨rfl, hname, hid⟩, hcons, ← ih (e :: seen)]
              rfl
          · have hrest : ecosystems (⟨name, true⟩ :: rest) = ecosystems rest :=
              List.filterMap_cons_none (Ecosystem.ofId?_eq_none hname)
            rw [hrest, ← ih seen, condense, if_neg (by simp [hname])]

namespace Config

theorem registered_condensed (c : Config) :
    c.condensed.registered = firstsBeyond [] c.registered :=
  CustomizerToggle.ecosystems_condense [] c.customizers

/-- The dispatcher of the entries that matter is like the one of all
entries. -/
theorem alike_condensed (c : Config) :
    Dispatcher.Alike c.dispatcher c.condensed.dispatcher := by
  refine ⟨rfl, fun body => ?_⟩
  show Dispatcher.firstOutcome body (c.registered.map (Ecosystem.customizer c.anchor))
    = Dispatcher.firstOutcome body
        (c.condensed.registered.map (Ecosystem.customizer c.anchor))
  unfold Dispatcher.firstOutcome
  rw [registered_condensed, List.findSome?_map, List.findSome?_map,
    findSome?_firstsBeyond _ (fun _ hnil => by cases hnil)]

-- ================================================================ the law

/-- The law of the configured customizers. Over any calls, the dispatcher of
a configuration answers as the dispatcher of the entries that matter does,
and the two follow customizers of the same id; and an index whose id has
been registered before is never active. -/
theorem run_condensed (c : Config) (calls : List Call) :
    (c.dispatcher.run calls).2 = (c.condensed.dispatcher.run calls).2
      ∧ (c.dispatcher.run calls).1.active?
          = (c.condensed.dispatcher.run calls).1.active?
      ∧ ∀ index, (c.dispatcher.run calls).1.activity = .active index →
          ∀ before < index, c.dispatcher.ids[before]? ≠ c.dispatcher.ids[index]? := by
  obtain ⟨hanswers, halike⟩ := c.alike_condensed.run calls
  refine ⟨hanswers, halike.active?, fun index hactive before hlt hid => ?_⟩
  have hne := Dispatcher.getElem?_ne_of_active hactive before hlt
  have hids : ∀ i : Nat, c.dispatcher.ids[i]? = c.registered[i]?.map Ecosystem.id := by
    intro i
    show ((c.registered.map (Ecosystem.customizer c.anchor)).map (·.id))[i]? = _
    rw [List.map_map, List.getElem?_map]
    rfl
  rw [hids, hids] at hid
  -- an equal id is an equal ecosystem, and that an equal customizer
  have hsame : c.registered[before]? = c.registered[index]? :=
    Option.map_injective (fun _ _ => Ecosystem.id_injective) hid
  rw [List.getElem?_map, List.getElem?_map, hsame] at hne
  exact hne rfl

end Config

end ConsoleLinks
