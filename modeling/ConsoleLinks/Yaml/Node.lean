/-
The nodes of a document, read from its tokens. Where a sign announces a
node and none follows, there is an empty one.

A node may carry the number of its anchor. An anchor is given as its
number how many names are in use where it is set; a name that is set
again stays one name. An alias carries the number that its name has where
it stands.
-/
import ConsoleLinks.Yaml.Token

namespace ConsoleLinks.Yaml

/-- A node. -/
inductive Node where
  | scalar (anchor : Option Nat) (tag : Option String) (style : ScalarStyle)
    (text : String)
  | sequence (anchor : Option Nat) (items : List Node)
  | mapping (anchor : Option Nat) (entries : List (Node × Node))
  | reference (number : Nat)
deriving Inhabited, Repr

namespace Node

/-- The node where none is written. -/
def empty : Node := .scalar none none .plain ""

-- ============================================================== labels

mutual

/-- The nodes that carry an anchor, with their numbers, in the order they
begin. -/
def anchored : Node → List (Nat × Node)
  | scalar a tag style text => (a.map fun n => (n, scalar a tag style text)).toList
  | sequence a items => (a.map fun n => (n, sequence a items)).toList ++ anchoredItems items
  | mapping a entries =>
    (a.map fun n => (n, mapping a entries)).toList ++ anchoredEntries entries
  | reference _ => []

def anchoredItems : List Node → List (Nat × Node)
  | [] => []
  | item :: rest => anchored item ++ anchoredItems rest

def anchoredEntries : List (Node × Node) → List (Nat × Node)
  | [] => []
  | (key, value) :: rest => anchored key ++ anchored value ++ anchoredEntries rest

end

-- ============================================================= reading

/-- The names of anchors in use, with their numbers. -/
abbrev Names := List (String × Nat)

/-- Sets an anchor: its number, and the names in use from there on. -/
def setName (names : Names) (name : String) : Nat × Names :=
  let number := names.length
  if (names.lookup name).isSome then
    (number, names.map fun (other, n) => (other, if other = name then number else n))
  else (number, names ++ [(name, number)])

/-- The names in use, and the tokens still to be read. -/
structure Rest where
  names : Names
  tokens : List Token

/-- What tag handles stand for. -/
abbrev Handles := List (String × String)

/-- The anchor and the tag in front of a node. -/
structure Properties where
  anchor : Option String := none
  tag : Option String := none

/-- The whole of a tag; `none` when its handle stands for nothing. -/
def wholeTag? (handles : Handles) (handle rest : String) : Option String :=
  if handle = "" then some rest
  else (handles.lookup handle).map (· ++ rest)

/-- Reads the anchor and the tag in front of a node, in either order. -/
def properties? (handles : Handles) (tokens : List Token) :
    Option (Properties × List Token) :=
  match tokens with
  | .anchor name :: .tag handle rest :: tokens =>
    (wholeTag? handles handle rest).map (⟨some name, some ·⟩, tokens)
  | .tag handle rest :: .anchor name :: tokens =>
    (wholeTag? handles handle rest).map (⟨some name, some ·⟩, tokens)
  | .anchor name :: tokens => some (⟨some name, none⟩, tokens)
  | .tag handle rest :: tokens =>
    (wholeTag? handles handle rest).map (⟨none, some ·⟩, tokens)
  | _ => some ({}, tokens)

/-- Whether no node follows a sign inside a block mapping. -/
def endsBlockPart : List Token → Bool
  | .key :: _ | .value :: _ | .blockEnd :: _ => true
  | _ => false

/-- Whether no node follows a sign inside brackets that are closed by the
given token. -/
def endsFlowPart (close : Token) : List Token → Bool
  | .value :: _ | .flowEntry :: _ => true
  | t :: _ => t = close
  | [] => false

/-- Reads no token: the node is the empty one, which must have an anchor
or a tag. -/
def readNothing (properties : Properties) (anchor : Option Nat) (names : Names)
    (tokens : List Token) : Option (Node × Rest) :=
  if properties.anchor.isSome || properties.tag.isSome then
    some (.scalar anchor properties.tag .plain "", ⟨names, tokens⟩)
  else none

/-- The tokens behind a comma. -/
def afterComma? : List Token → Option (List Token)
  | .flowEntry :: tokens => some tokens
  | _ => none

mutual

/-- Reads a node. Block collections are read where `block` says so, and
items without a block of their own where `indentless` does. -/
def read (handles : Handles) :
    (fuel : Nat) → (block indentless : Bool) → Rest → Option (Node × Rest)
  | 0, _, _, _ => none
  | fuel + 1, block, indentless, r =>
    match r.tokens with
    | .reference name :: tokens =>
      (r.names.lookup name).map fun number => (.reference number, ⟨r.names, tokens⟩)
    | _ =>
      match properties? handles r.tokens with
      | none => none
      | some (properties, tokens) =>
        let (anchor, names) := match properties.anchor with
          | none => (none, r.names)
          | some name => let (number, names) := setName r.names name; (some number, names)
        match tokens with
        | .scalar style text :: tokens =>
          let tag := if properties.tag = some "!" then none else properties.tag
          some (.scalar anchor tag style text, ⟨names, tokens⟩)
        | .flowSequenceStart :: tokens =>
          match readFlowItems handles fuel [] ⟨names, tokens⟩ with
          | none => none
          | some (items, r) => some (.sequence anchor items, r)
        | .flowMappingStart :: tokens =>
          match readFlowEntries handles fuel [] ⟨names, tokens⟩ with
          | none => none
          | some (entries, r) => some (.mapping anchor entries, r)
        | .blockEntry :: _ =>
          if indentless then
            match readLooseItems handles fuel [] ⟨names, tokens⟩ with
            | none => none
            | some (items, r) => some (.sequence anchor items, r)
          else readNothing properties anchor names tokens
        | .blockSequenceStart :: tokens' =>
          if block then
            match readBlockItems handles fuel [] ⟨names, tokens'⟩ with
            | none => none
            | some (items, r) => some (.sequence anchor items, r)
          else readNothing properties anchor names tokens
        | .blockMappingStart :: tokens' =>
          if block then
            match readBlockEntries handles fuel [] ⟨names, tokens'⟩ with
            | none => none
            | some (entries, r) => some (.mapping anchor entries, r)
          else readNothing properties anchor names tokens
        | _ => readNothing properties anchor names tokens

/-- Reads the items of a block sequence. Those read are kept in
reverse. -/
def readBlockItems (handles : Handles) :
    (fuel : Nat) → (items : List Node) → Rest → Option (List Node × Rest)
  | 0, _, _ => none
  | fuel + 1, items, r =>
    match r.tokens with
    | .blockEnd :: tokens => some (items.reverse, ⟨r.names, tokens⟩)
    | .blockEntry :: tokens =>
      match tokens with
      | .blockEntry :: _ | .blockEnd :: _ =>
        readBlockItems handles fuel (empty :: items) ⟨r.names, tokens⟩
      | _ =>
        match read handles fuel true false ⟨r.names, tokens⟩ with
        | none => none
        | some (item, r) => readBlockItems handles fuel (item :: items) r
    | _ => none

/-- Reads items that stand in the column of the mapping around them. -/
def readLooseItems (handles : Handles) :
    (fuel : Nat) → (items : List Node) → Rest → Option (List Node × Rest)
  | 0, _, _ => none
  | fuel + 1, items, r =>
    match r.tokens with
    | .blockEntry :: tokens =>
      match tokens with
      | .blockEntry :: _ | .key :: _ | .value :: _ | .blockEnd :: _ =>
        readLooseItems handles fuel (empty :: items) ⟨r.names, tokens⟩
      | _ =>
        match read handles fuel true false ⟨r.names, tokens⟩ with
        | none => none
        | some (item, r) => readLooseItems handles fuel (item :: items) r
    | _ => some (items.reverse, r)

/-- Reads what a sign inside a block mapping announces. -/
def readBlockPart (handles : Handles) : (fuel : Nat) → Rest → Option (Node × Rest)
  | 0, _ => none
  | fuel + 1, r =>
    if endsBlockPart r.tokens then some (empty, r) else read handles fuel true true r

/-- Reads the entries of a block mapping. -/
def readBlockEntries (handles : Handles) :
    (fuel : Nat) → (entries : List (Node × Node)) → Rest →
    Option (List (Node × Node) × Rest)
  | 0, _, _ => none
  | fuel + 1, entries, r =>
    match r.tokens with
    | .blockEnd :: tokens => some (entries.reverse, ⟨r.names, tokens⟩)
    | .key :: tokens =>
      match readBlockPart handles fuel ⟨r.names, tokens⟩ with
      | none => none
      | some (key, r) =>
        match r.tokens with
        | .value :: tokens =>
          match readBlockPart handles fuel ⟨r.names, tokens⟩ with
          | none => none
          | some (value, r) => readBlockEntries handles fuel ((key, value) :: entries) r
        | _ => readBlockEntries handles fuel ((key, empty) :: entries) r
    | _ => none

/-- Reads the value behind a key inside brackets, if there is one. -/
def readFlowValue (handles : Handles) (close : Token) :
    (fuel : Nat) → Rest → Option (Node × Rest)
  | 0, _ => none
  | fuel + 1, r =>
    match r.tokens with
    | .value :: tokens =>
      match tokens with
      | .flowEntry :: _ => some (empty, ⟨r.names, tokens⟩)
      | t :: _ =>
        if t = close then some (empty, ⟨r.names, tokens⟩)
        else read handles fuel false false ⟨r.names, tokens⟩
      | [] => none
    | _ => some (empty, r)

/-- Reads the items of a flow sequence. An item may be a single entry
behind the sign of a key; where the key is missing, the token in its
place is lost. -/
def readFlowItems (handles : Handles) :
    (fuel : Nat) → (items : List Node) → Rest → Option (List Node × Rest)
  | 0, _, _ => none
  | fuel + 1, items, r =>
    match r.tokens with
    | .flowSequenceEnd :: tokens => some (items.reverse, ⟨r.names, tokens⟩)
    | tokens =>
      match (if items.isEmpty then some tokens else afterComma? tokens) with
      | none => none
      | some (.flowSequenceEnd :: tokens) => some (items.reverse, ⟨r.names, tokens⟩)
      | some (.key :: tokens) =>
        match (if endsFlowPart .flowSequenceEnd tokens then
            some (empty, ⟨r.names, tokens.drop 1⟩)
          else read handles fuel false false ⟨r.names, tokens⟩) with
        | none => none
        | some (key, r) =>
          match readFlowValue handles .flowSequenceEnd fuel r with
          | none => none
          | some (value, r) =>
            readFlowItems handles fuel (.mapping none [(key, value)] :: items) r
      | some tokens =>
        match read handles fuel false false ⟨r.names, tokens⟩ with
        | none => none
        | some (item, r) => readFlowItems handles fuel (item :: items) r

/-- Reads the entries of a flow mapping. -/
def readFlowEntries (handles : Handles) :
    (fuel : Nat) → (entries : List (Node × Node)) → Rest →
    Option (List (Node × Node) × Rest)
  | 0, _, _ => none
  | fuel + 1, entries, r =>
    match r.tokens with
    | .flowMappingEnd :: tokens => some (entries.reverse, ⟨r.names, tokens⟩)
    | tokens =>
      match (if entries.isEmpty then some tokens else afterComma? tokens) with
      | none => none
      | some (.flowMappingEnd :: tokens) => some (entries.reverse, ⟨r.names, tokens⟩)
      | some (.key :: tokens) =>
        match (if endsFlowPart .flowMappingEnd tokens then some (empty, ⟨r.names, tokens⟩)
          else read handles fuel false false ⟨r.names, tokens⟩) with
        | none => none
        | some (key, r) =>
          match readFlowValue handles .flowMappingEnd fuel r with
          | none => none
          | some (value, r) => readFlowEntries handles fuel ((key, value) :: entries) r
      | some tokens =>
        match read handles fuel false false ⟨r.names, tokens⟩ with
        | none => none
        | some (key, r) => readFlowEntries handles fuel ((key, empty) :: entries) r

end

end Node

end ConsoleLinks.Yaml
