/-
Navigation targets as JSON. A target is written as an object whose first
member names the action, the others following in a fixed order. It is
read back from such an object with its members in any order and among
members of other names, or from an array of the action and the values in
that order.

Reading from text (`NavigationTarget.read`) and reading from a value
(`NavigationTarget.ofJson?`) differ in one point: a text can show a
member twice, which a target does not allow.
-/
import ConsoleLinks.Json.Reader
import ConsoleLinks.Target

namespace ConsoleLinks

/-- The names of the values an action goes with, in order. -/
def Action.fields : Action → List String
  | openSymbol => ["symbol", "file", "line"]
  | openFile => ["file", "line"]
  | openProjectFile => ["file", "project", "line", "column"]

namespace NavigationTarget

-- ============================================================= writing

/-- The values that go with a target's action, in order. -/
def values : NavigationTarget → List Json
  | openSymbol symbol file line => [.str symbol, .str file, .natural line.toNat]
  | openFile file line => [.str file, .natural line.toNat]
  | openProjectFile file project line column =>
    [.str file, (project.map Json.str).getD .null, .natural line.toNat,
     .natural column.toNat]

/-- A target as an object. -/
def toJson (t : NavigationTarget) : Json :=
  .object (("action", .str t.action.name) :: t.action.fields.zip t.values)

-- ============================================================= reading

/-- A line or column in a document. -/
def word? (value : Json) : Option UInt32 :=
  match value.natural? with
  | none => none
  | some n => if n < UInt32.size then some (UInt32.ofNat n) else none

/-- A project in a document: a text, or `null` for none. -/
def project? : Json → Option (Option String)
  | .null => some none
  | .str project => some (some project)
  | _ => none

/-- The target for an action, whose values are looked up by name. Only
the project may be missing. -/
def build? (field : String → Option Json) : Action → Option NavigationTarget
  | .openSymbol => do
    let symbol ← (field "symbol").bind Json.text?
    let file ← (field "file").bind Json.text?
    let line ← (field "line").bind word?
    return openSymbol symbol file line
  | .openFile => do
    let file ← (field "file").bind Json.text?
    let line ← (field "line").bind word?
    return openFile file line
  | .openProjectFile => do
    let file ← (field "file").bind Json.text?
    let project ← project? ((field "project").getD .null)
    let line ← (field "line").bind word?
    let column ← (field "column").bind word?
    return openProjectFile file project line column

/-- The action that a value names. -/
def action? (value : Json) : Option Action := value.text?.bind Action.ofName?

/-- The target of an action and its values in order: as many as the
action goes with. -/
def ofValues? (action : Action) (values : List Json) : Option NavigationTarget :=
  if values.length = action.fields.length then
    build? (fun name => (action.fields.zip values).lookup name) action
  else none

/-- The target that a value describes. -/
def ofJson? : Json → Option NavigationTarget
  | .object members =>
    let field name := (Json.object members).member? name
    ((field "action").bind action?).bind (build? field)
  | .array (first :: values) => (action? first).bind (ofValues? · values)
  | _ => none

-- =================================================== reading from text

/-- Why a text is not a target. -/
inductive ReadFault where
  /-- The text is not JSON. -/
  | json (fault : Json.Fault)
  /-- The text describes something else than a target. -/
  | unfitting
deriving DecidableEq, Repr

open Json (skipSpace nextPart memberName colon fuelFor finish)

/-- Passes on what a step finds. -/
def ofRead {α : Type} : Json.Read α → Except ReadFault (α × List Char)
  | .ok found => .ok found
  | .error fault => .error (.json fault)

/-- How deep containers may be nested inside a target. -/
def maxDepth : Nat := Json.maxDepth - 1

/-- Reads the action. Anything but the name of one is refused as soon as
it has been read; a container is not read at all. -/
def readAction (text : List Char) : Except ReadFault (Action × List Char) :=
  match (skipSpace text).head? with
  | some '[' | some '\x7b' => .error .unfitting
  | _ =>
    match Json.value (fuelFor text) maxDepth text with
    | .error fault => .error (.json fault)
    | .ok (value, rest) =>
      match action? value with
      | some action => .ok (action, rest)
      | none => .error .unfitting

/-- Reads the members of an object: the action, and all others in the
order they are given. A second action is refused where its name
stands. -/
def readMembers : (fuel : Nat) → (action : Option Action) →
    (others : List (String × Json)) → List Char →
    Except ReadFault ((Option Action × List (String × Json)) × List Char)
  | 0, _, _, _ => .error (.json .malformed)
  | fuel + 1, action, others, text =>
    match nextPart '\x7d' (action.isNone && others.isEmpty) text with
    | .error fault => .error (.json fault)
    | .ok (false, rest) => .ok ((action, others.reverse), rest)
    | .ok (true, rest) => do
      let (name, rest) ← ofRead (memberName rest)
      if name = "action".toList then
        if action.isSome then .error .unfitting
        else
          let (_, rest) ← ofRead (colon rest)
          let (found, rest) ← readAction rest
          readMembers fuel (some found) others rest
      else
        let (_, rest) ← ofRead (colon rest)
        let (value, rest) ← ofRead (Json.value (fuelFor rest) maxDepth rest)
        readMembers fuel action ((String.ofList name, value) :: others) rest

/-- The target of an action and the other members of its object, none of
the action's values being given twice. -/
def ofMembers? (action : Option Action) (others : List (String × Json)) :
    Option NavigationTarget := do
  let action ← action
  if action.fields.all fun name => others.countP (·.1 = name) ≤ 1 then
    build? (others.lookup ·) action
  else none

/-- Reads the items of an array: the action, and its values. -/
def readItems (text : List Char) :
    Except ReadFault ((Action × List Json) × List Char) :=
  match nextPart ']' true text with
  | .error fault => .error (.json fault)
  | .ok (false, _) => .error .unfitting
  | .ok (true, rest) => do
    let (action, rest) ← readAction rest
    let (items, rest) ← ofRead (Json.items (fuelFor rest) maxDepth [.null] rest)
    return ((action, items.drop 1), rest)

/-- Ends a text that shows the given target, if it shows one. -/
def conclude (target : Option NavigationTarget) (rest : List Char) :
    Except ReadFault NavigationTarget :=
  match target with
  | none => .error .unfitting
  | some t =>
    match finish t rest with
    | .ok t => .ok t
    | .error fault => .error (.json fault)

/-- The target that a JSON text describes. -/
def read (text : List Char) : Except ReadFault NavigationTarget :=
  match skipSpace text with
  | '\x7b' :: rest => do
    let ((action, others), rest) ← readMembers (fuelFor rest) none [] rest
    conclude (ofMembers? action others) rest
  | '[' :: rest => do
    let ((action, values), rest) ← readItems rest
    conclude (ofValues? action values) rest
  | text =>
    match Json.value (fuelFor text) maxDepth text with
    | .error fault => .error (.json fault)
    | .ok _ => .error .unfitting

end NavigationTarget

end ConsoleLinks
