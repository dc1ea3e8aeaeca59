/-
Printed mappings read back: the document is the node of the mapping
(`Document.read_render`), and the views of that node show what the tree
holds. Nothing in such a node is an alias, so each view is that of the
node itself. The fields of a mapping with distinct keys are the values
under these keys (`Document.fields?_toNode`).

Consumed by configurations as YAML (`Proofs/Config/RoundTrip.lean`).
-/
import ConsoleLinks.Proofs.Yaml.Nodes

namespace ConsoleLinks.Yaml

theorem itemNodes_eq_map (ts : List Tree) : itemNodes ts = ts.map Tree.toNode := by
  induction ts with
  | nil => rfl
  | cons t ts ih => rw [itemNodes, ih, List.map_cons]

theorem entryNodes_eq_map (es : List (String × Tree)) :
    entryNodes es = es.map fun e => (.scalar none none .plain e.1, e.2.toNode) := by
  induction es with
  | nil => rfl
  | cons e es ih => rw [entryNodes, ih, List.map_cons]

namespace Document

-- =============================================================== reading

/-- A printed mapping is read as its node. -/
theorem read_render (entries : List (String × Tree)) (h : entriesHaveKeys entries = true) :
    read (Tree.mapping entries).render = some ⟨(Tree.mapping entries).toNode⟩ := by
  have hnode (handles : Node.Handles) : Node.read handles
      (fuelFor ((Tree.mapping entries).tokens false)) true false
      ⟨[], (Tree.mapping entries).tokens false ++ []⟩ = _ :=
    Node.read_tokens (Tree.mapping entries) false (by simp [fuelFor]; omega)
      fun hloose => absurd hloose Bool.false_ne_true
  have hroot : root? [] ((Tree.mapping entries).tokens false)
      = some ((Tree.mapping entries).toNode, []) := by
    rw [List.append_nil] at hnode
    rw [root?, hnode]
    rfl
  have htokens : ofTokens? ((Tree.mapping entries).tokens false)
      = (root? [] ((Tree.mapping entries).tokens false)).bind fun found =>
          if (found.2.dropWhile (· = .documentEnd)).isEmpty then some ⟨found.1⟩ else none := by
    cases entries <;> rfl
  rw [read, tokens?_render entries h, Option.bind_some, htokens, hroot]
  rfl

-- ================================================================= views

variable (d : Document)

theorem text?_toNode (s : String) : d.text? (Tree.text s).toNode = some s := rfl

theorem choice?_toNode (s : String) : d.choice? (Tree.text s).toNode = some s := rfl

theorem bool?_toNode (b : Bool) : d.bool? (Tree.bool b).toNode = some b := by
  cases b <;> rfl

theorem items?_toNode (ts : List Tree) :
    d.items? (Tree.list ts).toNode = some (ts.map Tree.toNode) := by
  rw [← itemNodes_eq_map]
  rfl

/-- The entries of a mapping whose keys are scalars, in whatever style. -/
theorem entries?_mapping {β : Type} {key value : β → Node} {word : β → String}
    (hkey : ∀ b, d.text? (key b) = some (word b)) (anchor : Option Nat) (rows : List β) :
    d.entries? (.mapping anchor (rows.map fun b => (key b, value b)))
      = some (rows.map fun b => (word b, value b)) := by
  show (rows.map fun b => (key b, value b)).mapM
    (fun e : Node × Node => (d.text? e.1).map (·, e.2)) = _
  rw [List.mapM_map]
  have hread : ((fun e : Node × Node => (d.text? e.1).map (·, e.2)) ∘ fun b => (key b, value b))
      = fun b => some (word b, value b) := by
    funext b
    show (d.text? (key b)).map (·, value b) = _
    rw [hkey]
    rfl
  rw [hread]
  exact List.mapM_pure

/-- The fields of such a mapping, if its keys are distinct. -/
theorem fields?_mapping {β : Type} {key value : β → Node} {word : β → String}
    (hkey : ∀ b, d.text? (key b) = some (word b)) (names : List String) (anchor : Option Nat)
    {rows : List β} (h : (rows.map word).Nodup) :
    d.fields? names (.mapping anchor (rows.map fun b => (key b, value b)))
      = some fun name => (rows.map fun b => (word b, value b)).lookup name := by
  have hcount (name : String) :
      (rows.map fun b => (word b, value b)).countP (·.1 = name) ≤ 1 := by
    have honce := List.nodup_iff_count.1 h name
    rw [List.count, List.countP_map] at honce
    rw [List.countP_map, List.countP_congr fun b _ => ?_]
    · exact honce
    · simp
  rw [fields?, entries?_mapping d hkey]
  dsimp only
  rw [if_pos (List.all_eq_true.2 fun name _ => decide_eq_true (hcount name))]

theorem lookup_toNode (es : List (String × Tree)) (name : String) :
    (es.map fun e => (e.1, e.2.toNode)).lookup name = (es.lookup name).map Tree.toNode := by
  induction es with
  | nil => rfl
  | cons e es ih =>
      rw [List.map_cons, List.lookup_cons, List.lookup_cons, ih]
      cases name == e.1 <;> rfl

/-- The fields of a mapping whose keys are distinct. -/
theorem fields?_toNode (names : List String) {es : List (String × Tree)}
    (h : (es.map (·.1)).Nodup) :
    d.fields? names (Tree.mapping es).toNode
      = some fun name => (es.lookup name).map Tree.toNode := by
  rw [Tree.toNode, entryNodes_eq_map, fields?_mapping d (fun _ => rfl) names none h]
  exact congrArg some (funext fun name => lookup_toNode es name)

end Document

end ConsoleLinks.Yaml
