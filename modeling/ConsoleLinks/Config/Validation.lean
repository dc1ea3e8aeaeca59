/-
Validation: what a configuration must satisfy beyond having the right
shape. A scheme must be one, so that a link leads where the settings say;
the name of a call must be an identifier, so that its arguments are what
the payload shows; and no id may be listed twice.

The checks are made in a fixed order, and the first that fails is
reported (`Config.defect?`).
-/
import ConsoleLinks.Config.Basic
import ConsoleLinks.Text.Quoted

namespace ConsoleLinks

-- =============================================================== names

/-- Whether a character may stand in the name of a scheme. -/
def isSchemeChar (c : Char) : Bool := c.isAlphanum || c = '+' || c = '.' || c = '-'

/-- Whether a text is the name of a scheme with the colon behind it:
a letter, then letters, digits and `+`, `.`, `-`, all of ASCII. -/
def isScheme (text : String) : Bool :=
  match Text.beforeWord? [':'] text.toList with
  | some (c :: rest) => c.isAlpha && rest.all isSchemeChar
  | some [] | none => false

/-- Whether a text can be the name of a call: letters, digits, `_` and
`$`, all of ASCII and no digit in front. -/
def isCallName (text : String) : Bool :=
  match text.toList with
  | [] => false
  | c :: rest =>
    (c.isAlpha || c = '_' || c = '$') &&
      rest.all fun d => d.isAlphanum || d = '_' || d = '$'

/-- The first text that is equal to an earlier one or to one of those
already seen. -/
def firstRepeated? (seen : List String) : List String → Option String
  | [] => none
  | text :: rest =>
    if text ∈ seen then some text else firstRepeated? (text :: seen) rest

-- ============================================================== defects

/-- What is wrong with a configuration. -/
inductive Defect where
  /-- The scheme is not one. -/
  | scheme (text : String)
  /-- The call for an action is not an identifier. -/
  | call (action : Action) (name : String)
  /-- An id is listed twice. -/
  | repeated (id : String)
deriving DecidableEq, Repr

/-- A defect in words. -/
def Defect.message : Defect → String
  | scheme text =>
    "anchor.scheme must be a scheme name followed by ':', got "
      ++ Text.Quoted.quote text
  | call action name =>
    "anchor." ++ action.name ++ "_call must be an identifier, got "
      ++ Text.Quoted.quote name
  | repeated id => "customizer '" ++ id ++ "' is listed more than once"

namespace Config

/-- The first defect of a configuration: its scheme, its calls in order,
its ids. -/
def defect? (c : Config) : Option Defect :=
  if !isScheme c.anchor.scheme then some (.scheme c.anchor.scheme)
  else
    match Action.all.find? fun a => !isCallName (c.anchor.call a) with
    | some a => some (.call a (c.anchor.call a))
    | none => (firstRepeated? [] c.ids).map .repeated

/-- A configuration that has passed validation, or its first defect. -/
def validate (c : Config) : Except Defect Config :=
  match c.defect? with
  | some defect => .error defect
  | none => .ok c

end Config

end ConsoleLinks
