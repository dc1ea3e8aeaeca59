/-
Links as markup: the payload that carries a target, the anchor around the
visible text, and the line with a stretch of it turned into an anchor.

A payload has the shape `SCHEME CALL(ARGUMENTS);` without the blank, e.g.
`javascript:open("org.test.Junk.main", "Junk.java", 6);`. Scheme and call
names are taken from the settings as they are; what makes them safe is
checked where a configuration is validated (`Config.Validation`).
-/
import ConsoleLinks.Anchor.Argument
import ConsoleLinks.Target

namespace ConsoleLinks

/-- The parts of a payload that can be configured. -/
structure AnchorSettings where
  /-- What the payload begins with, the colon included. -/
  scheme : String := "javascript:"
  /-- The call that opens a symbol. -/
  openSymbolCall : String := "open"
  /-- The call that opens a file. -/
  openFileCall : String := "openCSSTL"
  /-- The call that opens a file of a project. -/
  openProjectFileCall : String := "openCSCM"
deriving DecidableEq, Repr

namespace AnchorSettings

/-- The call for an action. -/
def call (settings : AnchorSettings) : Action → String
  | .openSymbol => settings.openSymbolCall
  | .openFile => settings.openFileCall
  | .openProjectFile => settings.openProjectFileCall

end AnchorSettings

namespace Anchor

/-- A text as an argument. -/
def textArgument (text : String) : List Char :=
  ['"'] ++ escape text.toList ++ ['"']

/-- A number as an argument. -/
def numberArgument (n : UInt32) : List Char := Nat.toDigits 10 n.toNat

/-- A project as an argument; `null` stands for none. -/
def projectArgument : Option String → List Char
  | some project => textArgument project
  | none => "null".toList

/-- The arguments of a payload. Only those of a symbol are set apart by
blanks. -/
def argumentsOf : NavigationTarget → List Char
  | .openSymbol symbol file line =>
    textArgument symbol ++ ", ".toList ++ textArgument file ++ ", ".toList
      ++ numberArgument line
  | .openFile file line => textArgument file ++ [','] ++ numberArgument line
  | .openProjectFile file project line column =>
    textArgument file ++ [','] ++ projectArgument project ++ [',']
      ++ numberArgument line ++ [','] ++ numberArgument column

/-- The payload that carries a target. -/
def payload (settings : AnchorSettings) (target : NavigationTarget) : List Char :=
  settings.scheme.toList ++ (settings.call target.action).toList ++ ['(']
    ++ argumentsOf target ++ ");".toList

/-- What stands in front of the visible text. -/
def openingTag (settings : AnchorSettings) (target : NavigationTarget) : List Char :=
  "<a href='".toList ++ payload settings target ++ "'>".toList

/-- What stands behind the visible text. -/
def closingTag : List Char := "</a>".toList

/-- The visible text, unchanged, inside the anchor for a target. -/
def anchor (settings : AnchorSettings) (target : NavigationTarget)
    (visible : List Char) : List Char :=
  openingTag settings target ++ visible ++ closingTag

/-- The line with a span of it inside the anchor for a target, and all
else as it was; `none` when the span is not a stretch of the line. -/
def wrap (settings : AnchorSettings) (line : List Char) (span : Span)
    (target : NavigationTarget) : Option (List Char) :=
  match Text.cutSpan? span.start span.stop line with
  | none => none
  | some (before, visible, behind) =>
    some (before ++ anchor settings target visible ++ behind)

end Anchor

end ConsoleLinks
