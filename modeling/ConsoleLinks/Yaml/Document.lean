/-
Documents: a text with one node at its root, and the views of its nodes
that a reader of settings needs. An alias stands for the last node that
carries its number. Where nothing is written there is an empty mapping or
an empty list, whichever is asked for.
-/
import ConsoleLinks.Yaml.Node
import ConsoleLinks.Yaml.Scan

namespace ConsoleLinks.Yaml

/-- A document, given by the node at its root. -/
structure Document where
  root : Node
deriving Repr

namespace Document

-- ============================================================= reading

/-- The handles that stand for something in every document. -/
def standardHandles : Node.Handles := [("!", "!"), ("!!", "tag:yaml.org,2002:")]

/-- Reads the directives at the head of a document: what tag handles
stand for, none being given twice, and the version, given once at most
and one of two. -/
def directives? (versioned : Bool) (handles : Node.Handles) :
    List Token → Option (Node.Handles × List Token)
  | .version major minor :: tokens =>
    if versioned || major ≠ 1 || (minor ≠ 1 && minor ≠ 2) then none
    else directives? true handles tokens
  | .tagHandle handle stem :: tokens =>
    if (handles.lookup handle).isSome then none
    else directives? versioned (handles ++ [(handle, stem)]) tokens
  | tokens => some (handles, tokens)

/-- Steps enough to read a node from tokens. -/
def fuelFor (tokens : List Token) : Nat := 4 * (tokens.length + 1)

/-- Reads the node at the root of a document. -/
def root? (handles : Node.Handles) (tokens : List Token) :
    Option (Node × List Token) :=
  (Node.read (handles ++ standardHandles) (fuelFor tokens) true false ⟨[], tokens⟩).map
    fun (node, rest) => (node, rest.tokens)

/-- Reads a document whose start is marked, from behind the directives. -/
def marked? (handles : Node.Handles) : List Token → Option (Node × List Token)
  | .documentStart :: tokens =>
    match tokens with
    | [] | .documentStart :: _ | .documentEnd :: _ | .version .. :: _
    | .tagHandle .. :: _ => some (.empty, tokens)
    | _ => root? handles tokens
  | _ => none

/-- The only document in some tokens. -/
def ofTokens? (tokens : List Token) : Option Document := do
  let (root, rest) ←
    match tokens with
    | [] => some (Node.empty, [])
    | .documentStart :: _ | .version .. :: _ | .tagHandle .. :: _ =>
      match directives? false [] tokens with
      | none => none
      | some (handles, tokens) => marked? handles tokens
    | _ => root? [] tokens
  if (rest.dropWhile (· = .documentEnd)).isEmpty then return ⟨root⟩ else none

/-- The only document in a text. -/
def read (text : List Char) : Option Document := (tokens? text).bind ofTokens?

-- =============================================================== views

/-- The node that a node stands for. -/
def resolve (d : Document) : Node → Node
  | .reference number => (d.root.anchored.reverse.lookup number).getD .empty
  | node => node

/-- Whether nothing is written at a node. -/
def isNothing : Node → Bool
  | .scalar _ _ .plain "" => true
  | _ => false

/-- The text of a scalar, of whatever style. -/
def text? (d : Document) (node : Node) : Option String :=
  match d.resolve node with
  | .scalar _ _ _ text => some text
  | _ => none

/-- The items of a sequence. -/
def items? (d : Document) (node : Node) : Option (List Node) :=
  match d.resolve node with
  | .sequence _ items => some items
  | node => if isNothing node then some [] else none

/-- The entries of a mapping, each with the text of its key. -/
def entries? (d : Document) (node : Node) : Option (List (String × Node)) :=
  match d.resolve node with
  | .mapping _ entries =>
    entries.mapM fun (key, value) => (d.text? key).map (·, value)
  | node => if isNothing node then some [] else none

/-- The fields of a mapping, looked up by name. None of the given names
may stand twice; any other may. -/
def fields? (d : Document) (names : List String) (node : Node) :
    Option (String → Option Node) :=
  match d.entries? node with
  | none => none
  | some entries =>
    if names.all fun name => entries.countP (·.1 = name) ≤ 1 then
      some (entries.lookup ·)
    else none

/-- The words that are truth values when they stand without quotes. -/
def truth? (word : String) : Option Bool :=
  if word ∈ ["true", "True", "TRUE"] then some true
  else if word ∈ ["false", "False", "FALSE"] then some false
  else none

/-- The tag of truth values. -/
def truthTag : String := "tag:yaml.org,2002:bool"

/-- The truth value of a plain scalar, or of a literal one that is tagged
as such. -/
def bool? (d : Document) (node : Node) : Option Bool :=
  match d.resolve node with
  | .scalar _ _ .plain text => truth? text
  | .scalar _ (some tag) .literal text => if tag = truthTag then truth? text else none
  | _ => none

/-- The words that mean nothing when they stand without quotes. -/
def isNull (word : String) : Bool := word ∈ ["", "~", "null", "Null", "NULL"]

/-- A tag without the sign in front of it. -/
def tagName (tag : String) : String :=
  match tag.toList with
  | '!' :: rest => String.ofList rest
  | _ => tag

/-- The name of a choice: a scalar's text, or its tag when it has one and
nothing else. -/
def choice? (d : Document) (node : Node) : Option String :=
  match d.resolve node with
  | .scalar _ none _ text => some text
  | .scalar _ (some tag) .plain text => if isNull text then some (tagName tag) else none
  | _ => none

end Document

end ConsoleLinks.Yaml
