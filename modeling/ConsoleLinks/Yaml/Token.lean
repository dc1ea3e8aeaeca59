/-
The tokens of YAML documents. Besides the signs that are written there
are those that the layout stands for: the start of a block collection,
its end, and the key in front of a value.
-/

namespace ConsoleLinks.Yaml

/-- How a scalar is written. -/
inductive ScalarStyle where
  | plain
  | singleQuoted
  | doubleQuoted
  | literal
  | folded
deriving DecidableEq, Repr

/-- A token. -/
inductive Token where
  /-- The version that a document is written for. -/
  | version (major minor : Nat)
  /-- What a tag handle stands for. -/
  | tagHandle (handle stem : String)
  | documentStart
  | documentEnd
  | blockSequenceStart
  | blockMappingStart
  | blockEnd
  | flowSequenceStart
  | flowSequenceEnd
  | flowMappingStart
  | flowMappingEnd
  | blockEntry
  | flowEntry
  | key
  | value
  | reference (name : String)
  | anchor (name : String)
  /-- A tag by its handle and the rest of it; the handle is empty when
  the tag is written out. -/
  | tag (handle rest : String)
  | scalar (style : ScalarStyle) (text : String)
deriving DecidableEq, Repr

end ConsoleLinks.Yaml
