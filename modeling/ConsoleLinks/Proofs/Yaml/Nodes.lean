/-
From the tokens of a tree to its node.

A tree stands for a node without anchors and tags (`Tree.toNode`), and the
tokens of the tree are read as that node, whatever tokens follow
(`read_tokens`). Only the items of a list behind a key need the following
tokens to begin with no further item, since nothing else ends them.

The reader is given fuel, one unit for each call inside another. Each
token of a tree accounts for one, and a list behind a key, which has no
tokens around its items, for two more.

Consumed by the reading of printed trees (`Proofs/Yaml/RoundTrip.lean`).
-/
import ConsoleLinks.Proofs.Yaml.Tokens
import ConsoleLinks.Yaml.Document

namespace ConsoleLinks.Yaml

open Printer (styleOf)

-- ================================================================= nodes

mutual

/-- The node that a tree stands for. -/
def Tree.toNode : Tree → Node
  | .text s => .scalar none none (styleOf s) s
  | .bool b => .scalar none none .plain (if b then "true" else "false")
  | .list items => .sequence none (itemNodes items)
  | .mapping entries => .mapping none (entryNodes entries)

/-- The nodes of items. -/
def itemNodes : List Tree → List Node
  | [] => []
  | item :: rest => item.toNode :: itemNodes rest

/-- The nodes of entries. -/
def entryNodes : List (String × Tree) → List (Node × Node)
  | [] => []
  | (key, value) :: rest => (.scalar none none .plain key, value.toNode) :: entryNodes rest

end

/-- No tree is without tokens. -/
theorem Tree.length_tokens_pos (t : Tree) (loose : Bool) : 0 < (t.tokens loose).length := by
  cases t with
  | text s => exact Nat.zero_lt_one
  | bool b => exact Nat.zero_lt_one
  | list items => cases items <;> cases loose <;> exact Nat.succ_pos _
  | mapping entries => cases entries <;> exact Nat.succ_pos _

namespace Node

variable {handles : Handles} {names : Names} {fuel : Nat} {nodes : List Node} {rest : List Token}

/-- A scalar without anchor and tag. -/
theorem read_scalar (block indentless : Bool) (style : ScalarStyle) (s : String) :
    read handles (fuel + 1) block indentless ⟨names, .scalar style s :: rest⟩
      = some (.scalar none none style s, ⟨names, rest⟩) := by
  simp [read, properties?]

/-- What announces an item in a block of its own is followed by the
item. -/
theorem readBlockItems_item (item : Tree) :
    readBlockItems handles (fuel + 1) nodes ⟨names, .blockEntry :: (item.tokens false ++ rest)⟩
      = match read handles fuel true false ⟨names, item.tokens false ++ rest⟩ with
        | none => none
        | some (node, r) => readBlockItems handles fuel (node :: nodes) r := by
  cases item with
  | text s => rfl
  | bool b => rfl
  | list items => cases items <;> rfl
  | mapping entries => cases entries <;> rfl

/-- The same of an item in the column of the mapping around it. -/
theorem readLooseItems_item (item : Tree) :
    readLooseItems handles (fuel + 1) nodes ⟨names, .blockEntry :: (item.tokens false ++ rest)⟩
      = match read handles fuel true false ⟨names, item.tokens false ++ rest⟩ with
        | none => none
        | some (node, r) => readLooseItems handles fuel (node :: nodes) r := by
  cases item with
  | text s => rfl
  | bool b => rfl
  | list items => cases items <;> rfl
  | mapping entries => cases entries <;> rfl

/-- Such items end where no further one begins. -/
theorem readLooseItems_end (hrest : rest.head? ≠ some .blockEntry) :
    readLooseItems handles (fuel + 1) nodes ⟨names, rest⟩
      = some (nodes.reverse, ⟨names, rest⟩) := by
  rw [readLooseItems]
  split
  next hhead =>
    rw [show rest = _ from hhead] at hrest
    exact absurd rfl hrest
  next => rfl

/-- What announces a value is followed by the value. -/
theorem readBlockPart_value (value : Tree) :
    readBlockPart handles (fuel + 1) ⟨names, value.tokens true ++ rest⟩
      = read handles fuel true true ⟨names, value.tokens true ++ rest⟩ := by
  cases value with
  | text s => rfl
  | bool b => rfl
  | list items => cases items <;> rfl
  | mapping entries => cases entries <;> rfl

/-- A key and its value are read one after the other. -/
theorem readBlockEntries_entry (entries : List (Node × Node)) (key : String) (value : Tree) :
    readBlockEntries handles (fuel + 3) entries
        ⟨names, .key :: .scalar .plain key :: .value :: (value.tokens true ++ rest)⟩
      = (read handles (fuel + 1) true true ⟨names, value.tokens true ++ rest⟩).bind
          fun (node, r) =>
            readBlockEntries handles (fuel + 2) ((.scalar none none .plain key, node) :: entries)
              r := by
  have hkey : readBlockPart handles (fuel + 2)
      ⟨names, .scalar .plain key :: .value :: (value.tokens true ++ rest)⟩
        = some (.scalar none none .plain key, ⟨names, .value :: (value.tokens true ++ rest)⟩) := rfl
  rw [readBlockEntries]
  simp only [hkey, readBlockPart_value]
  cases read handles (fuel + 1) true true ⟨names, value.tokens true ++ rest⟩ with
  | none => rfl
  | some found => rfl

mutual

/-- The tokens of a tree are read as its node. -/
theorem read_tokens (t : Tree) (loose : Bool) {fuel : Nat}
    (hfuel : (t.tokens loose).length + 2 * loose.toNat ≤ fuel) {rest : List Token}
    (hrest : loose = true → rest.head? ≠ some .blockEntry) :
    read handles fuel true loose ⟨names, t.tokens loose ++ rest⟩
      = some (t.toNode, ⟨names, rest⟩) := by
  have hpos := t.length_tokens_pos loose
  obtain ⟨fuel, rfl⟩ : ∃ more, fuel = more + 1 := Nat.exists_eq_add_of_le' (by omega)
  match t with
  | .text s => exact read_scalar true loose (styleOf s) s
  | .bool b => exact read_scalar true loose .plain _
  | .list [] =>
      have hinner : 1 ≤ fuel := by
        simp only [Tree.tokens, List.length_cons, List.length_nil] at hfuel
        omega
      obtain ⟨fuel, rfl⟩ := Nat.exists_eq_add_of_le' hinner
      rfl
  | .mapping [] =>
      have hinner : 1 ≤ fuel := by
        simp only [Tree.tokens, List.length_cons, List.length_nil] at hfuel
        omega
      obtain ⟨fuel, rfl⟩ := Nat.exists_eq_add_of_le' hinner
      rfl
  | .list (item :: items) =>
      cases loose with
      | false =>
          have hlength : ((Tree.list (item :: items)).tokens false).length
              = (itemTokens (item :: items)).length + 2 := by
            simp [Tree.tokens]
          have hitems : readBlockItems handles fuel []
              ⟨names, itemTokens (item :: items) ++ .blockEnd :: rest⟩ = _ :=
            readBlockItems_tokens (item :: items) (by simp at hfuel; omega) [] rest
          have htokens : (Tree.list (item :: items)).tokens false ++ rest
              = .blockSequenceStart :: (itemTokens (item :: items) ++ .blockEnd :: rest) := by
            simp [Tree.tokens]
          rw [htokens, read]
          simp [properties?, hitems, Tree.toNode]
      | true =>
          have htokens : (Tree.list (item :: items)).tokens true ++ rest
              = .blockEntry :: (item.tokens false ++ (itemTokens items ++ rest)) := by
            simp [Tree.tokens, itemTokens]
          have hitems : readLooseItems handles fuel []
              ⟨names, itemTokens (item :: items) ++ rest⟩ = _ :=
            readLooseItems_tokens (item :: items) (by simp [Tree.tokens] at hfuel; omega) []
              (hrest rfl)
          rw [itemTokens, List.cons_append, List.cons_append, List.append_assoc] at hitems
          rw [htokens, read]
          simp [properties?, hitems, Tree.toNode]
  | .mapping (entry :: entries) =>
      have hentries : readBlockEntries handles fuel []
          ⟨names, entryTokens (entry :: entries) ++ .blockEnd :: rest⟩ = _ :=
        readBlockEntries_tokens (entry :: entries)
          (by simp [Tree.tokens] at hfuel; omega) [] rest
      have htokens : (Tree.mapping (entry :: entries)).tokens loose ++ rest
          = .blockMappingStart :: (entryTokens (entry :: entries) ++ .blockEnd :: rest) := by
        simp [Tree.tokens]
      rw [htokens, read]
      simp [properties?, hentries, Tree.toNode]

/-- The tokens of items in a block of their own are read as their
nodes. -/
theorem readBlockItems_tokens (ts : List Tree) {fuel : Nat}
    (hfuel : (itemTokens ts).length + 1 ≤ fuel) (nodes : List Node) (rest : List Token) :
    readBlockItems handles fuel nodes ⟨names, itemTokens ts ++ .blockEnd :: rest⟩
      = some (nodes.reverse ++ itemNodes ts, ⟨names, rest⟩) := by
  obtain ⟨fuel, rfl⟩ : ∃ more, fuel = more + 1 := Nat.exists_eq_add_of_le' (by omega)
  match ts with
  | [] => simp [itemTokens, itemNodes, readBlockItems]
  | item :: ts =>
      have hlength : (itemTokens (item :: ts)).length
          = (item.tokens false).length + (itemTokens ts).length + 1 := by
        simp [itemTokens]
      have hitem : read handles fuel true false
          ⟨names, item.tokens false ++ (itemTokens ts ++ .blockEnd :: rest)⟩ = _ :=
        read_tokens item false (by simp; omega) nofun
      have hitems : readBlockItems handles fuel (item.toNode :: nodes)
          ⟨names, itemTokens ts ++ .blockEnd :: rest⟩ = _ :=
        readBlockItems_tokens ts (by omega) (item.toNode :: nodes) rest
      have htokens : itemTokens (item :: ts) ++ .blockEnd :: rest
          = .blockEntry :: (item.tokens false ++ (itemTokens ts ++ .blockEnd :: rest)) := by
        simp [itemTokens]
      rw [htokens, readBlockItems_item, hitem]
      simp [hitems, itemNodes]

/-- The tokens of items in the column of the mapping around them are read
as their nodes. -/
theorem readLooseItems_tokens (ts : List Tree) {fuel : Nat}
    (hfuel : (itemTokens ts).length + 1 ≤ fuel) (nodes : List Node) {rest : List Token}
    (hrest : rest.head? ≠ some .blockEntry) :
    readLooseItems handles fuel nodes ⟨names, itemTokens ts ++ rest⟩
      = some (nodes.reverse ++ itemNodes ts, ⟨names, rest⟩) := by
  obtain ⟨fuel, rfl⟩ : ∃ more, fuel = more + 1 := Nat.exists_eq_add_of_le' (by omega)
  match ts with
  | [] =>
      rw [itemTokens, List.nil_append, readLooseItems_end hrest]
      simp [itemNodes]
  | item :: ts =>
      have hlength : (itemTokens (item :: ts)).length
          = (item.tokens false).length + (itemTokens ts).length + 1 := by
        simp [itemTokens]
      have hitem : read handles fuel true false
          ⟨names, item.tokens false ++ (itemTokens ts ++ rest)⟩ = _ :=
        read_tokens item false (by simp; omega) nofun
      have hitems : readLooseItems handles fuel (item.toNode :: nodes)
          ⟨names, itemTokens ts ++ rest⟩ = _ :=
        readLooseItems_tokens ts (by omega) (item.toNode :: nodes) hrest
      have htokens : itemTokens (item :: ts) ++ rest
          = .blockEntry :: (item.tokens false ++ (itemTokens ts ++ rest)) := by
        simp [itemTokens]
      rw [htokens, readLooseItems_item, hitem]
      simp [hitems, itemNodes]

/-- The tokens of entries are read as their nodes. -/
theorem readBlockEntries_tokens (es : List (String × Tree)) {fuel : Nat}
    (hfuel : (entryTokens es).length + 1 ≤ fuel) (nodes : List (Node × Node))
    (rest : List Token) :
    readBlockEntries handles fuel nodes ⟨names, entryTokens es ++ .blockEnd :: rest⟩
      = some (nodes.reverse ++ entryNodes es, ⟨names, rest⟩) := by
  obtain ⟨fuel, rfl⟩ : ∃ more, fuel = more + 1 := Nat.exists_eq_add_of_le' (by omega)
  match es with
  | [] => simp [entryTokens, entryNodes, readBlockEntries]
  | (key, value) :: es =>
      have hlength : (entryTokens ((key, value) :: es)).length
          = (value.tokens true).length + (entryTokens es).length + 3 := by
        simp [entryTokens]
      obtain ⟨fuel, rfl⟩ : ∃ more, fuel = more + 2 := Nat.exists_eq_add_of_le' (by omega)
      have hnext : (entryTokens es ++ .blockEnd :: rest).head? ≠ some .blockEntry := by
        cases es with
        | nil => simp [entryTokens]
        | cons entry es => simp [entryTokens]
      have hvalue : read handles (fuel + 1) true true
          ⟨names, value.tokens true ++ (entryTokens es ++ .blockEnd :: rest)⟩ = _ :=
        read_tokens value true (by simp; omega) fun _ => hnext
      have hentries : readBlockEntries handles (fuel + 2)
          ((.scalar none none .plain key, value.toNode) :: nodes)
          ⟨names, entryTokens es ++ .blockEnd :: rest⟩ = _ :=
        readBlockEntries_tokens es (by omega) _ rest
      have htokens : entryTokens ((key, value) :: es) ++ .blockEnd :: rest
          = .key :: .scalar .plain key :: .value
            :: (value.tokens true ++ (entryTokens es ++ .blockEnd :: rest)) := by
        simp [entryTokens]
      rw [htokens, readBlockEntries_entry, hvalue]
      simp [hentries, entryNodes]

end

end Node

end ConsoleLinks.Yaml
