/-
Gaps between the words of a scalar that runs over several lines. Blanks
within a line stand for themselves, unless a break follows them; a single
line feed stands for a space, and of several the first is dropped.
-/
import ConsoleLinks.Yaml.Character

namespace ConsoleLinks.Yaml

/-- A gap that is being read, what came last being first. -/
structure Gap where
  /-- The blanks, as long as there is no break. -/
  blanks : List Char := []
  breaks : List Char := []
  /-- Whether the gap began with an escaped break, which stands for
  nothing. -/
  joined : Bool := false
deriving DecidableEq, Repr

namespace Gap

/-- Whether there is no gap. -/
def isEmpty (g : Gap) : Bool := g.blanks.isEmpty && g.breaks.isEmpty && !g.joined

/-- Whether the gap reaches over the end of a line that was not
escaped. -/
def broken (g : Gap) : Bool := !g.breaks.isEmpty

/-- Extends the gap by a blank or a break. -/
def push (g : Gap) (c : Char) : Gap :=
  if isBreak c then { g with blanks := [], breaks := c :: g.breaks }
  else if g.broken || g.joined then g
  else { g with blanks := c :: g.blanks }

/-- What the gap stands for. -/
def text (g : Gap) : List Char :=
  match g.breaks.reverse with
  | [] => g.blanks.reverse
  | all =>
    if g.joined then all
    else
      match all with
      | ['\n'] => [' ']
      | '\n' :: more => more
      | all => all

/-- Puts what the gap stands for behind the text read so far, which is
kept in reverse. -/
def onto (g : Gap) (read : List Char) : List Char := g.text.reverse ++ read

end Gap

end ConsoleLinks.Yaml
