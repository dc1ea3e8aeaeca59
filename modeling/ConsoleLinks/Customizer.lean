/-
Customizers: each recognizes the lines of one kind of trace and puts links
into those that name a place. A customizer keeps nothing from line to line;
which one a stream is following is the dispatcher's affair.
-/
import ConsoleLinks.Anchor.Payload
import ConsoleLinks.Line.Ecosystem
import ConsoleLinks.Log.Record
import ConsoleLinks.Text.Quoted

namespace ConsoleLinks

/-- A line that a customizer has handled. -/
structure Customized where
  /-- The line to show: as it was, or with a link in it. -/
  text : String
  /-- Where the link leads. -/
  target : Option NavigationTarget
deriving DecidableEq, Repr

/-- Recognizes and links the lines of one kind of trace. -/
structure Customizer where
  /-- The name it is known by. -/
  id : String
  /-- The line as handled, or `none` for a line of another kind. -/
  attempt : String → Option Customized
  /-- What an attempt at a line leaves in the log. -/
  remarks : String → List Log.Record

namespace Customizer

/-- Whether the customizer recognizes the line, whether or not it puts a
link into it. -/
def canCustomize (c : Customizer) (line : String) : Bool := (c.attempt line).isSome

/-- The line as the customizer shows it; a line of another kind comes
back as it was. -/
def customize (c : Customizer) (line : String) : String :=
  match c.attempt line with
  | some done => done.text
  | none => line

end Customizer

-- ======================================================= by ecosystem

/-- Applies a match to its line: the location, where there is one, turns
into a link. -/
def LineMatch.apply (settings : AnchorSettings) (line : String) (m : LineMatch) :
    Option Customized :=
  match m.location?, NavigationTarget.ofMatch? m with
  | some place, some target =>
    (Anchor.wrap settings line.toList place.span target).map fun text =>
      ⟨String.ofList text, some target⟩
  | _, _ => some ⟨line, none⟩

namespace Ecosystem

/-- What the grammar leaves in the log: a line of the right shape with
numbers of no use. -/
def remarks (e : Ecosystem) (line : String) : List Log.Record :=
  match e.verdict line with
  | .unusable fault => [.trace "GRAMMAR" (fault ++ ": " ++ Text.Quoted.quote line)]
  | .unrelated | .recognized _ => []

/-- The customizer for an ecosystem's lines. -/
def customizer (settings : AnchorSettings) (e : Ecosystem) : Customizer where
  id := e.id
  attempt line := (e.detect line).bind (LineMatch.apply settings line)
  remarks := e.remarks

end Ecosystem

end ConsoleLinks
