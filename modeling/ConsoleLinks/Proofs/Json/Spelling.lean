/-
JSON texts: which texts spell a value (`Spells`), and that the reader takes
such a text for that value and no other (`value_spells`).

# Spellings

White space may stand between any two parts of a text (`Gap`), a comma stands
between the parts of a container (`Lead`), and strings and numbers are spelled
in the ways of `Parts.lean`. The items and the members behind an opening
bracket are spelled together with the closing one, so that each of the three
relations describes texts of at least one character.

# The reader

The reader and the relations recur alike over a value, the items of an array
and the members of an object, and the law is proved in that recursion, with
anything behind a value that does not go on with a number. A text may spell a
value that the reader does not hold: one nested too deep, or with a number that
is too large. Then a fault ends the reading (`Finds`); no other value is found.
A value that can be held (`Readable`) is found for sure, given two units of
fuel for each character: one for the step that looks for the next part, one for
the part.

Consumed by what is written (`RoundTrip.lean`) and by navigation targets
(`Proofs/Target/Spelling.lean`).
-/
import ConsoleLinks.Proofs.Json.Parts

namespace ConsoleLinks.Json

open Text

-- ================================================================ the gaps

/-- White space, or nothing. -/
def Gap (gap : List Char) : Prop := ∀ c ∈ gap, isSpace c = true

theorem gap_nil : Gap [] := fun _ h => nomatch h

/-- White space is skipped. -/
theorem skipSpace_gap {gap : List Char} (h : Gap gap) (rest : List Char) :
    skipSpace (gap ++ rest) = skipSpace rest :=
  List.dropWhile_append_of_pos h

/-- Nothing else is. -/
theorem skipSpace_cons {c : Char} (h : isSpace c = false) (rest : List Char) :
    skipSpace (c :: rest) = c :: rest :=
  List.dropWhile_cons_of_neg (by simp [h])

/-- White space is none of the characters of a number. -/
theorem endsNumber_gap {gap rest : List Char} (h : Gap gap) (hrest : EndsNumber rest) :
    EndsNumber (gap ++ rest) := by
  cases gap with
  | nil => exact hrest
  | cons c gap =>
      have hc := h c (List.mem_cons_self ..)
      simp only [isSpace, Bool.or_eq_true, decide_eq_true_eq] at hc
      rcases hc with ((rfl | rfl) | rfl) | rfl
      all_goals exact endsNumber_cons (by decide) _

/-- What leads to a part of a container: a comma, unless it is the first part,
in white space. -/
def Lead (first : Bool) (lead : List Char) : Prop :=
  if first then Gap lead
  else ∃ gap gap', Gap gap ∧ Gap gap' ∧ lead = gap ++ ',' :: gap'

section

variable {close : Char} {gap lead rest : List Char} {first : Bool}

/-- The end of a container is found. -/
theorem nextPart_close (hgap : Gap gap) (hspace : isSpace close = false) (first : Bool)
    (rest : List Char) : nextPart close first (gap ++ close :: rest) = .ok (false, rest) := by
  unfold nextPart
  rw [skipSpace_gap hgap, skipSpace_cons hspace]
  exact if_pos rfl

/-- So is the next part. -/
theorem nextPart_lead (hlead : Lead first lead) {c : Char} (hspace : isSpace c = false)
    (hc : c ≠ close) (hcomma : ',' ≠ close) (rest : List Char) :
    nextPart close first (lead ++ c :: rest) = .ok (true, c :: rest) := by
  unfold nextPart
  cases first with
  | true =>
      have hgap : Gap lead := hlead
      rw [skipSpace_gap hgap, skipSpace_cons hspace]
      simp [hc]
  | false =>
      obtain ⟨gap, gap', hgap, hgap', rfl⟩ := hlead
      rw [List.append_assoc, List.cons_append, skipSpace_gap hgap,
        skipSpace_cons (by decide)]
      simp [hcomma, skipSpace_gap hgap', skipSpace_cons hspace, hc]

/-- A comma ends a number. -/
theorem endsNumber_lead (hlead : Lead false lead) (rest : List Char) :
    EndsNumber (lead ++ rest) := by
  obtain ⟨gap, gap', hgap, -, rfl⟩ := hlead
  rw [List.append_assoc]
  exact endsNumber_gap hgap (endsNumber_cons (by decide) _)

end

-- =========================================================== the spellings

/-- A text spells a string, in its quotes. -/
def Quoted (s : String) (text : List Char) : Prop :=
  ∃ words, Characters s.toList words ∧ text = '"' :: (words ++ ['"'])

mutual

/-- A text spells a value. -/
def Spells : Json → List Char → Prop
  | null, text => text = "null".toList
  | bool true, text => text = "true".toList
  | bool false, text => text = "false".toList
  | natural n, text => ∃ p : Numeral, p.WellFormed ∧ p.value = .natural n ∧ text = p.text
  | number literal, text =>
    ∃ p : Numeral, p.WellFormed ∧ p.value = .number literal ∧ text = p.text
  | str s, text => Quoted s text
  | array items, text => ∃ tail, SpellsItems true items tail ∧ text = '[' :: tail
  | object members, text =>
    ∃ tail, SpellsMembers true members tail ∧ text = '\x7b' :: tail

/-- A text spells the items of an array and its end. `first` says that no item
stands in front of them. -/
def SpellsItems : (first : Bool) → List Json → List Char → Prop
  | _, [], text => ∃ gap, Gap gap ∧ text = gap ++ [']']
  | first, item :: items, text =>
    ∃ lead word tail, Lead first lead ∧ Spells item word ∧ SpellsItems false items tail
      ∧ text = lead ++ (word ++ tail)

/-- A text spells the members of an object and its end. -/
def SpellsMembers : (first : Bool) → List (String × Json) → List Char → Prop
  | _, [], text => ∃ gap, Gap gap ∧ text = gap ++ ['\x7d']
  | first, (name, value) :: members, text =>
    ∃ lead key gap gap' word tail, Lead first lead ∧ Quoted name key ∧ Gap gap ∧ Gap gap'
      ∧ Spells value word ∧ SpellsMembers false members tail
      ∧ text = lead ++ (key ++ (gap ++ ':' :: (gap' ++ (word ++ tail))))

end

/-- A text presents a value: it spells it, in white space. -/
def Presents (v : Json) (text : List Char) : Prop :=
  ∃ gap word gap', Gap gap ∧ Spells v word ∧ Gap gap' ∧ text = gap ++ (word ++ gap')

-- ============================================================== the values

mutual

/-- Whether the reader can hold a value, with containers nested to `depth`
at most. -/
def Readable : (depth : Nat) → Json → Prop
  | _, null | _, bool _ | _, str _ => True
  | _, natural n => n < UInt64.size
  | _, number _ => False
  | depth, array items => 0 < depth ∧ ItemsReadable (depth - 1) items
  | depth, object members => 0 < depth ∧ MembersReadable (depth - 1) members

/-- The same of all items of an array. -/
def ItemsReadable : (depth : Nat) → List Json → Prop
  | _, [] => True
  | depth, item :: rest => Readable depth item ∧ ItemsReadable depth rest

/-- The same of all members of an object. -/
def MembersReadable : (depth : Nat) → List (String × Json) → Prop
  | _, [] => True
  | depth, (_, value) :: rest => Readable depth value ∧ MembersReadable depth rest

end

theorem membersReadable_iff {depth : Nat} {members : List (String × Json)} :
    MembersReadable depth members ↔ ∀ m ∈ members, m.2.Readable depth := by
  induction members with
  | nil => simp [MembersReadable]
  | cons m members ih => simp [MembersReadable, ih]

-- ===================================================== where spellings begin

/-- A character that cannot be a digit is none. -/
theorem ne_of_isDigit {c mark : Char} (h : c.isDigit = true) (hmark : mark.isDigit = false) :
    c ≠ mark := by
  intro heq
  rw [heq, hmark] at h
  cases h

/-- The first character of a number is none that can stand around it. -/
theorem numeral_mark {c : Char} (h : c = '-' ∨ c.isDigit = true) :
    isSpace c = false ∧ ∀ mark ∈ ['[', ']', '\x7b', '\x7d', '"', 'n', 't', 'f'], c ≠ mark := by
  rcases h with rfl | h
  · exact ⟨by decide, by simp⟩
  · constructor
    · simp [isSpace, ne_of_isDigit h]
    · intro mark hmark
      have hall : (['[', ']', '\x7b', '\x7d', '"', 'n', 't', 'f'].all
        fun m => !m.isDigit) = true := by decide
      exact ne_of_isDigit h (by simpa using List.all_eq_true.1 hall mark hmark)

/-- A spelling begins with neither white space nor the end of a container. -/
theorem exists_cons_of_spells {v : Json} {text : List Char} (h : Spells v text) :
    ∃ c cs, text = c :: cs ∧ isSpace c = false ∧ c ≠ ']' ∧ c ≠ '\x7d' := by
  have hnumeral : ∀ p : Numeral, p.WellFormed → text = p.text →
      ∃ c cs, text = c :: cs ∧ isSpace c = false ∧ c ≠ ']' ∧ c ≠ '\x7d' := by
    intro p hp htext
    obtain ⟨c, cs, hc, hmark⟩ := Numeral.exists_text_eq_cons hp
    obtain ⟨hspace, hmarks⟩ := numeral_mark hmark
    exact ⟨c, cs, htext.trans hc, hspace, hmarks _ (by simp), hmarks _ (by simp)⟩
  match v, h with
  | .null, h | .bool true, h | .bool false, h => exact ⟨_, _, h, by decide⟩
  | .natural _, ⟨p, hp, _, htext⟩ | .number _, ⟨p, hp, _, htext⟩ => exact hnumeral p hp htext
  | .str _, ⟨_, _, htext⟩ | .array _, ⟨_, _, htext⟩ | .object _, ⟨_, _, htext⟩ =>
      exact ⟨_, _, htext, by decide⟩

theorem length_pos_of_spells {v : Json} {text : List Char} (h : Spells v text) :
    0 < text.length := by
  obtain ⟨c, cs, rfl, -⟩ := exists_cons_of_spells h
  exact Nat.succ_pos _

/-- What stands behind an item ends a number. -/
theorem endsNumber_items {items : List Json} {tail : List Char}
    (h : SpellsItems false items tail) (rest : List Char) : EndsNumber (tail ++ rest) := by
  match items, h with
  | [], ⟨gap, hgap, htail⟩ =>
      rw [htail, List.append_assoc]
      exact endsNumber_gap hgap (endsNumber_cons (by decide) rest)
  | _ :: _, ⟨lead, word, tail', hlead, _, _, htail⟩ =>
      rw [htail, List.append_assoc]
      exact endsNumber_lead hlead _

/-- So does what stands behind a member. -/
theorem endsNumber_members {members : List (String × Json)} {tail : List Char}
    (h : SpellsMembers false members tail) (rest : List Char) :
    EndsNumber (tail ++ rest) := by
  match members, h with
  | [], ⟨gap, hgap, htail⟩ =>
      rw [htail, List.append_assoc]
      exact endsNumber_gap hgap (endsNumber_cons (by decide) rest)
  | (_, _) :: _, ⟨lead, _, _, _, _, _, hlead, _, _, _, _, _, htail⟩ =>
      rw [htail, List.append_assoc]
      exact endsNumber_lead hlead _

theorem length_pos_of_spellsItems {first : Bool} {items : List Json} {tail : List Char}
    (h : SpellsItems first items tail) : 0 < tail.length := by
  match items, h with
  | [], ⟨gap, _, htail⟩ => simp [htail]
  | _ :: _, ⟨_, word, _, _, hword, _, htail⟩ =>
      have hpos := length_pos_of_spells hword
      simp only [htail, List.length_append]
      omega

theorem length_pos_of_spellsMembers {first : Bool} {members : List (String × Json)}
    {tail : List Char} (h : SpellsMembers first members tail) : 0 < tail.length := by
  match members, h with
  | [], ⟨gap, _, htail⟩ => simp [htail]
  | (_, _) :: _, ⟨_, _, _, _, _, _, _, _, _, _, _, _, htail⟩ =>
      simp only [htail, List.length_append, List.length_cons]
      omega

-- ============================================================== the parts

/-- What a value is read from decides what it is. -/
theorem value_of_head {c : Char} (hspace : isSpace c = false) (fuel depth : Nat)
    (rest : List Char) :
    value (fuel + 1) depth (c :: rest) = match c :: rest with
      | [] => .error .endsEarly
      | 'n' :: rest => word .null "ull".toList rest
      | 't' :: rest => word (.bool true) "rue".toList rest
      | 'f' :: rest => word (.bool false) "alse".toList rest
      | '"' :: rest =>
        match string .none [] rest with
        | .error e => .error e
        | .ok (s, rest) => .ok (.str (String.ofList s), rest)
      | '[' :: rest =>
        if depth = 0 then .error .malformed
        else
          match items fuel (depth - 1) [] rest with
          | .error e => .error e
          | .ok (found, rest) => .ok (.array found, rest)
      | '\x7b' :: rest =>
        if depth = 0 then .error .malformed
        else
          match members fuel (depth - 1) [] rest with
          | .error e => .error e
          | .ok (found, rest) => .ok (.object found, rest)
      | c :: rest =>
        if c = '-' || c.isDigit then numeral (c :: rest) else .error .malformed := by
  have hopen := value.eq_2 depth (c :: rest) fuel
  rw [skipSpace_cons hspace] at hopen
  exact hopen

section

variable {gap key rest : List Char}

/-- White space in front of a value is skipped. -/
theorem value_gap (h : Gap gap) (fuel depth : Nat) (rest : List Char) :
    value fuel depth (gap ++ rest) = value fuel depth rest := by
  cases fuel with
  | zero => rfl
  | succ fuel => rw [value.eq_2, value.eq_2, skipSpace_gap h]

/-- A number is read as a value. -/
theorem value_numeral {p : Numeral} (hp : p.WellFormed) (hrest : EndsNumber rest)
    (fuel depth : Nat) :
    Finds p.IsNatural (value (fuel + 1) depth (p.text ++ rest)) p.value rest := by
  have hnumeral := Numeral.numeral_text hp hrest
  obtain ⟨c, cs, hc, hmark⟩ := Numeral.exists_text_eq_cons hp
  obtain ⟨hspace, hmarks⟩ := numeral_mark hmark
  have hopen : (decide (c = '-') || c.isDigit) = true := by
    rw [Bool.or_eq_true, decide_eq_true_eq]
    exact hmark
  rw [hc, List.cons_append] at hnumeral ⊢
  rw [value_of_head hspace]
  simpa [hmarks, hopen] using hnumeral

/-- So is a string. -/
theorem value_quoted {s : String} (h : Quoted s key) (fuel depth : Nat) (rest : List Char) :
    value (fuel + 1) depth (key ++ rest) = .ok (.str s, rest) := by
  obtain ⟨words, hwords, rfl⟩ := h
  have hstring := string_characters hwords [] rest
  rw [List.cons_append, List.append_assoc, value_of_head (by decide)]
  simp [hstring]

/-- The name of a member is read. -/
theorem memberName_quoted {name : String} (h : Quoted name key) (rest : List Char) :
    memberName (key ++ rest) = .ok (name.toList, rest) := by
  obtain ⟨words, hwords, rfl⟩ := h
  have hstring := string_characters hwords [] rest
  rw [List.cons_append, List.append_assoc]
  exact hstring

/-- So is the colon behind it. -/
theorem colon_gap (h : Gap gap) (rest : List Char) :
    colon (gap ++ ':' :: rest) = .ok ((), rest) := by
  unfold colon
  rw [skipSpace_gap h, skipSpace_cons (by decide)]
  rfl

/-- What leads to an item. -/
theorem item_spells {first : Bool} {item : Json} {items : List Json} {text : List Char}
    (h : SpellsItems first (item :: items) text) (rest : List Char) :
    ∃ word tail, nextPart ']' first (text ++ rest) = .ok (true, word ++ (tail ++ rest))
      ∧ Spells item word ∧ SpellsItems false items tail
      ∧ word.length + tail.length ≤ text.length := by
  obtain ⟨lead, word, tail, hlead, hword, htail, htext⟩ := h
  refine ⟨word, tail, ?_, hword, htail, ?_⟩
  · obtain ⟨c, cs, hc, hspace, hclose, -⟩ := exists_cons_of_spells hword
    simp only [htext, hc, List.append_assoc, List.cons_append]
    exact nextPart_lead hlead hspace hclose (by decide) _
  · simp only [htext, List.length_append]
    omega

/-- What leads to the value of a member, step by step. -/
theorem member_spells {first : Bool} {name : String} {v : Json}
    {members : List (String × Json)} {text : List Char}
    (h : SpellsMembers first ((name, v) :: members) text) (rest : List Char) :
    ∃ behind behindName gap word tail,
      nextPart '\x7d' first (text ++ rest) = .ok (true, behind)
        ∧ memberName behind = .ok (name.toList, behindName)
        ∧ colon behindName = .ok ((), gap ++ (word ++ (tail ++ rest)))
        ∧ Gap gap ∧ Spells v word ∧ SpellsMembers false members tail
        ∧ word.length + tail.length < text.length := by
  obtain ⟨lead, key, gap, gap', word, tail, hlead, hkey, hgap, hgap', hword, htail, htext⟩ := h
  have hname := memberName_quoted hkey (gap ++ ':' :: (gap' ++ (word ++ (tail ++ rest))))
  have hcolon := colon_gap hgap (gap' ++ (word ++ (tail ++ rest)))
  refine ⟨_, _, gap', word, tail, ?_, hname, hcolon, hgap', hword, htail, ?_⟩
  · obtain ⟨words, -, rfl⟩ := hkey
    simp only [htext, List.append_assoc, List.cons_append]
    exact nextPart_lead hlead (by decide) (by decide) (by decide) _
  · simp only [htext, List.length_append, List.length_cons]
    omega

end

-- =========================================================== the recursion

mutual

/-- A text that spells a value is read as that value, if at all. -/
theorem value_spells (v : Json) {text rest : List Char} (h : Spells v text)
    (hrest : EndsNumber rest) (fuel depth : Nat) :
    Finds (v.Readable depth ∧ 2 * text.length ≤ fuel) (value fuel depth (text ++ rest)) v
      rest := by
  cases fuel with
  | zero =>
      have hpos := length_pos_of_spells h
      exact .inr ⟨fun hsure => by omega, _, rfl⟩
  | succ fuel =>
    match v, h with
    | .null, h | .bool true, h | .bool false, h =>
        rw [h]
        exact .inl rfl
    | .natural n, ⟨p, hp, hvalue, htext⟩ =>
        have hfinds := value_numeral hp hrest fuel depth
        rw [hvalue] at hfinds
        rw [htext]
        exact hfinds.mono fun _ => Numeral.isNatural_of_value hvalue
    | .number _, ⟨p, hp, hvalue, htext⟩ =>
        have hfinds := value_numeral hp hrest fuel depth
        rw [hvalue] at hfinds
        rw [htext]
        exact hfinds.mono fun hsure => hsure.1.elim
    | .str _, h => exact .inl (value_quoted h fuel depth rest)
    | .array found, ⟨tail, htail, htext⟩ =>
        rw [htext, List.cons_append, value_of_head (by decide)]
        by_cases hdepth : depth = 0
        · exact .inr ⟨fun hsure => absurd hsure.1.1 (by omega), _, if_pos hdepth⟩
        · have hfound := items_spells found [] htail rest fuel (depth - 1)
          refine hfound.andThen .of_ok (fun h => by simp [hdepth, h])
            (fun fault h => ⟨fault, by simp [hdepth, h]⟩) fun hsure => ?_
          have hfuel := hsure.2
          rw [List.length_cons] at hfuel
          exact ⟨⟨hsure.1.2, by omega⟩, trivial⟩
    | .object found, ⟨tail, htail, htext⟩ =>
        rw [htext, List.cons_append, value_of_head (by decide)]
        by_cases hdepth : depth = 0
        · exact .inr ⟨fun hsure => absurd hsure.1.1 (by omega), _, if_pos hdepth⟩
        · have hfound := members_spells found [] htail rest fuel (depth - 1)
          refine hfound.andThen .of_ok (fun h => by simp [hdepth, h])
            (fun fault h => ⟨fault, by simp [hdepth, h]⟩) fun hsure => ?_
          have hfuel := hsure.2
          rw [List.length_cons] at hfuel
          exact ⟨⟨hsure.1.2, by omega⟩, trivial⟩

/-- Items are read behind those already read. -/
theorem items_spells (found : List Json) {text : List Char} (read : List Json)
    (h : SpellsItems read.isEmpty found text) (rest : List Char) (fuel depth : Nat) :
    Finds (ItemsReadable depth found ∧ 2 * text.length ≤ fuel)
      (items fuel depth read (text ++ rest)) (read.reverse ++ found) rest := by
  cases fuel with
  | zero =>
      have hpos := length_pos_of_spellsItems h
      exact .inr ⟨fun hsure => by omega, _, rfl⟩
  | succ fuel =>
    match found, h with
    | [], ⟨gap, hgap, htext⟩ =>
        have hend : nextPart ']' read.isEmpty (gap ++ ']' :: rest) = _ :=
          nextPart_close hgap (by decide) read.isEmpty rest
        rw [htext, List.append_assoc, items, List.singleton_append, hend, List.append_nil]
        exact .inl rfl
    | item :: found, h =>
        obtain ⟨word, tail, hnext, hword, htail, hlength⟩ := item_spells h rest
        have hpos := length_pos_of_spells hword
        have hposTail := length_pos_of_spellsItems htail
        have hvalue := value_spells item hword (endsNumber_items htail rest) fuel depth
        have hitems := items_spells found (item :: read) htail rest fuel depth
        rw [List.reverse_cons, List.append_assoc] at hitems
        rw [items, hnext]
        dsimp only
        refine hvalue.andThen hitems (fun h => by rw [h]) (fun fault h => ⟨fault, by rw [h]⟩) ?_
        intro ⟨⟨hitem, hread⟩, hfuel⟩
        exact ⟨⟨hitem, by omega⟩, hread, by omega⟩

/-- Members are read behind those already read. -/
theorem members_spells (found : List (String × Json)) {text : List Char}
    (read : List (String × Json)) (h : SpellsMembers read.isEmpty found text)
    (rest : List Char) (fuel depth : Nat) :
    Finds (MembersReadable depth found ∧ 2 * text.length ≤ fuel)
      (members fuel depth read (text ++ rest)) (read.reverse ++ found) rest := by
  cases fuel with
  | zero =>
      have hpos := length_pos_of_spellsMembers h
      exact .inr ⟨fun hsure => by omega, _, rfl⟩
  | succ fuel =>
    match found, h with
    | [], ⟨gap, hgap, htext⟩ =>
        have hend : nextPart '\x7d' read.isEmpty (gap ++ '\x7d' :: rest) = _ :=
          nextPart_close hgap (by decide) read.isEmpty rest
        rw [htext, List.append_assoc, members, List.singleton_append, hend, List.append_nil]
        exact .inl rfl
    | (name, v) :: found, h =>
        obtain ⟨_, _, gap, word, tail, hnext, hname, hcolon, hgap, hword, htail, hlength⟩ :=
          member_spells h rest
        have hpos := length_pos_of_spells hword
        have hposTail := length_pos_of_spellsMembers htail
        have hvalue := value_spells v hword (endsNumber_members htail rest) fuel depth
        rw [← value_gap hgap] at hvalue
        have hmembers := members_spells found ((name, v) :: read) htail rest fuel depth
        rw [List.reverse_cons, List.append_assoc] at hmembers
        rw [members, hnext]
        dsimp only
        rw [hname]
        dsimp only
        rw [hcolon, String.ofList_toList]
        dsimp only
        refine hvalue.andThen hmembers (fun h => by rw [h]) (fun fault h => ⟨fault, by rw [h]⟩) ?_
        intro ⟨⟨hitem, hread⟩, hfuel⟩
        exact ⟨⟨hitem, by omega⟩, hread, by omega⟩

end

-- ================================================================ the text

/-- The steps that are taken for a text are enough for any part of it. -/
theorem le_fuelFor (front part rest : List Char) :
    2 * part.length ≤ fuelFor (front ++ (part ++ rest)) := by
  simp only [fuelFor, List.length_append]
  omega

/-- Nothing is behind a value but white space. -/
theorem finish_gap {α : Type} (found : α) {gap : List Char} (h : Gap gap) :
    finish found gap = .ok found := by
  have hskip : skipSpace gap = [] := by
    have h := skipSpace_gap h []
    rwa [List.append_nil] at h
  unfold finish
  rw [hskip]
  rfl

/-- A text that presents a value is read as that value; one that the reader does
not hold may be refused. -/
theorem read_of_presents {v : Json} {text : List Char} (h : Presents v text) :
    read text = .ok v ∨ ¬ v.Readable maxDepth ∧ ∃ fault, read text = .error fault := by
  obtain ⟨gap, word, gap', hgap, hword, hgap', rfl⟩ := h
  have hend : EndsNumber gap' := by
    have hnil := endsNumber_gap hgap' endsNumber_nil
    rwa [List.append_nil] at hnil
  have hfuel := le_fuelFor gap word gap'
  have hvalue := value_spells v hword hend (fuelFor (gap ++ (word ++ gap'))) maxDepth
  rw [← value_gap hgap] at hvalue
  unfold read
  rcases hvalue with hfound | ⟨hnot, fault, hfault⟩
  · rw [hfound]
    exact .inl (finish_gap v hgap')
  · rw [hfault]
    exact .inr ⟨fun hread => hnot ⟨hread, hfuel⟩, fault, rfl⟩

end ConsoleLinks.Json
