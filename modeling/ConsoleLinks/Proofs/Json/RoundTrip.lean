/-
Values as JSON: every value that the reader can hold is read back from the
text it is written as (`read_render`), and that text holds no control
character (`not_control_of_mem_render`), so no line break either.

# What can be held

A number that is not a natural one keeps whatever text it is given, so
nothing can be said of it; a natural number must fit 64 bits; and
containers are nested no deeper than the reader goes (`Readable`). Strings
and names of members are arbitrary.

# The text

What is written is one of the texts that spell a value (`spells_render`): the
one without white space. So the law of the reader (`Spelling.lean`) settles
what it is read as.
-/
import ConsoleLinks.Proofs.Json.Spelling
import ConsoleLinks.Proofs.Text.Classes

namespace ConsoleLinks.Json

open Text

-- ========================================================= parts in a row

/-- Texts with commas between them; a comma stands in front too unless the
first of them is the first of all. -/
def listed : (first : Bool) → List (List Char) → List Char
  | _, [] => []
  | first, text :: rest => (if first then [] else [',']) ++ text ++ listed false rest

theorem listed_cons_cons (text next : List Char) (rest : List (List Char)) :
    listed true (text :: next :: rest) = text ++ [','] ++ listed true (next :: rest) := by
  simp [listed]

theorem renderItems_eq (items : List Json) :
    renderItems items = listed true (items.map render) := by
  induction items with
  | nil => rfl
  | cons item rest ih =>
      cases rest with
      | nil => simp [renderItems, listed]
      | cons next rest =>
          rw [renderItems, ih]
          exact (listed_cons_cons ..).symm

/-- A member of an object. -/
def renderMember (member : String × Json) : List Char :=
  quote member.1 ++ [':'] ++ render member.2

theorem renderMembers_eq (members : List (String × Json)) :
    renderMembers members = listed true (members.map renderMember) := by
  induction members with
  | nil => rfl
  | cons member rest ih =>
      obtain ⟨key, value⟩ := member
      cases rest with
      | nil => simp [renderMembers, listed, renderMember]
      | cons next rest =>
          rw [renderMembers, ih]
          exact (listed_cons_cons ..).symm

-- ======================================================= what is written

theorem quoted_quote (s : String) : Quoted s (quote s) :=
  ⟨_, characters_escape s.toList, by simp [quote]⟩

/-- What stands in front of a part in a row leads to it. -/
theorem lead_listed (first : Bool) : Lead first (if first then [] else [',']) := by
  cases first with
  | true => exact gap_nil
  | false => exact ⟨[], [], gap_nil, gap_nil, rfl⟩

mutual

/-- The text of a value that can be held spells it. -/
theorem spells_render (v : Json) {depth : Nat} (hv : v.Readable depth) :
    Spells v v.render := by
  match v, hv with
  | .null, _ | .bool true, _ | .bool false, _ => rfl
  | .natural n, hn =>
      exact ⟨_, Numeral.wellFormed_ofNat n, Numeral.value_ofNat hn,
        (Numeral.text_ofNat n).symm⟩
  | .str s, _ => exact quoted_quote s
  | .array items, ⟨_, hitems⟩ =>
      refine ⟨_, spells_renderItems items hitems true, ?_⟩
      simp [render, renderItems_eq]
  | .object members, ⟨_, hmembers⟩ =>
      refine ⟨_, spells_renderMembers members hmembers true, ?_⟩
      simp [render, renderMembers_eq]

theorem spells_renderItems (items : List Json) {depth : Nat}
    (h : ItemsReadable depth items) (first : Bool) :
    SpellsItems first items (listed first (items.map render) ++ [']']) := by
  match items, h with
  | [], _ => exact ⟨[], gap_nil, rfl⟩
  | item :: items, ⟨hitem, hitems⟩ =>
      refine ⟨_, _, _, lead_listed first, spells_render item hitem,
        spells_renderItems items hitems false, ?_⟩
      simp [listed]

theorem spells_renderMembers (members : List (String × Json)) {depth : Nat}
    (h : MembersReadable depth members) (first : Bool) :
    SpellsMembers first members (listed first (members.map renderMember) ++ ['\x7d']) := by
  match members, h with
  | [], _ => exact ⟨[], gap_nil, rfl⟩
  | (name, v) :: members, ⟨hv, hmembers⟩ =>
      refine ⟨_, _, [], [], _, _, lead_listed first, quoted_quote name, gap_nil, gap_nil,
        spells_render v hv, spells_renderMembers members hmembers false, ?_⟩
      simp [listed, renderMember]

end

-- ================================================================ the law

/-- So it presents it. -/
theorem presents_render {v : Json} {depth : Nat} (h : v.Readable depth) : Presents v v.render :=
  ⟨[], _, [], gap_nil, spells_render v h, gap_nil, by simp⟩

/-- A value that the reader can hold is read back from its text. -/
theorem read_render {v : Json} (h : v.Readable maxDepth) : read v.render = .ok v := by
  rcases read_of_presents (presents_render h) with hread | ⟨hnot, -⟩
  · exact hread
  · exact absurd h hnot

/-- What stands in a row of texts is a comma or stands in one of them. -/
theorem not_control_of_mem_listed_cons {first : Bool} {text : List Char}
    {texts : List (List Char)} (htext : ∀ c ∈ text, 0x20 ≤ c.toNat)
    (htexts : ∀ c ∈ listed false texts, 0x20 ≤ c.toNat) :
    ∀ c ∈ listed first (text :: texts), 0x20 ≤ c.toNat := by
  intro c hc
  rcases List.mem_append.1 hc with hc | hc
  · rcases List.mem_append.1 hc with hc | hc
    · cases first with
      | true => cases hc
      | false =>
          rw [List.mem_singleton.1 hc]
          decide
    · exact htext c hc
  · exact htexts c hc

/-- Marks around a text bring no control characters. -/
theorem not_control_of_mem_between {opening closing : Char} {text : List Char}
    (hopening : 0x20 ≤ opening.toNat) (hclosing : 0x20 ≤ closing.toNat)
    (htext : ∀ c ∈ text, 0x20 ≤ c.toNat) :
    ∀ c ∈ [opening] ++ text ++ [closing], 0x20 ≤ c.toNat := by
  intro c hc
  rcases List.mem_append.1 hc with hc | hc
  · rcases List.mem_append.1 hc with hc | hc
    · rw [List.mem_singleton.1 hc]
      exact hopening
    · exact htext c hc
  · rw [List.mem_singleton.1 hc]
    exact hclosing

mutual

/-- The text of such a value holds no control character. -/
theorem not_control_of_mem_render (v : Json) {depth : Nat} (hv : v.Readable depth) :
    ∀ c ∈ v.render, 0x20 ≤ c.toNat := by
  match v, hv with
  | .null, _ => exact not_control_of_all (by decide)
  | .bool true, _ => exact not_control_of_all (by decide)
  | .bool false, _ => exact not_control_of_all (by decide)
  | .natural n, _ =>
      intro c hc
      have hrange := toNat_of_isDigit (isDigit_of_mem_toDigits c hc)
      omega
  | .str s, _ => exact fun c hc => not_control_of_mem_quote hc
  | .array items, ⟨_, hitems⟩ =>
      rw [render, renderItems_eq]
      exact not_control_of_mem_between (by decide) (by decide)
        (not_control_of_mem_items items hitems true)
  | .object members, ⟨_, hmembers⟩ =>
      rw [render, renderMembers_eq]
      exact not_control_of_mem_between (by decide) (by decide)
        (not_control_of_mem_members members hmembers true)

/-- Nor do the items of an array. -/
theorem not_control_of_mem_items (items : List Json) {depth : Nat}
    (h : ItemsReadable depth items) (first : Bool) :
    ∀ c ∈ listed first (items.map render), 0x20 ≤ c.toNat := by
  match items, h with
  | [], _ => exact fun c hc => nomatch hc
  | item :: items, ⟨hitem, hitems⟩ =>
      exact not_control_of_mem_listed_cons (not_control_of_mem_render item hitem)
        (not_control_of_mem_items items hitems false)

/-- Nor do the members of an object. -/
theorem not_control_of_mem_members (members : List (String × Json)) {depth : Nat}
    (h : MembersReadable depth members) (first : Bool) :
    ∀ c ∈ listed first (members.map renderMember), 0x20 ≤ c.toNat := by
  match members, h with
  | [], _ => exact fun c hc => nomatch hc
  | (key, v) :: members, ⟨hv, hmembers⟩ =>
      have hmember : ∀ c ∈ renderMember (key, v), 0x20 ≤ c.toNat := by
        intro c hc
        rcases List.mem_append.1 hc with hc | hc
        · rcases List.mem_append.1 hc with hc | hc
          · exact not_control_of_mem_quote hc
          · rw [List.mem_singleton.1 hc]
            decide
        · exact not_control_of_mem_render v hv c hc
      exact not_control_of_mem_listed_cons hmember
        (not_control_of_mem_members members hmembers false)

end

end ConsoleLinks.Json
