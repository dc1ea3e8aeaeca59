/-
Texts measured and cut in bytes of their UTF-8 form: places in a console
line are byte offsets, and a cut counts only where a character begins or
the text ends.
-/

namespace ConsoleLinks.Text

/-- The length of a text in bytes. -/
def byteLength (text : List Char) : Nat :=
  text.foldr (fun c length => c.utf8Size + length) 0

/-- The bytes of a text. -/
def bytes (text : List Char) : List UInt8 := text.flatMap String.utf8EncodeChar

/-- Moves characters over from the front of the text until `offset` bytes
have been moved; `none` when the offset falls inside a character or
beyond the end. -/
def cutFrom (moved : List Char) : (offset : Nat) → List Char →
    Option (List Char × List Char)
  | 0, text => some (moved.reverse, text)
  | _ + 1, [] => none
  | offset + 1, c :: text =>
    if c.utf8Size ≤ offset + 1 then
      cutFrom (c :: moved) (offset + 1 - c.utf8Size) text
    else none

/-- The text before and the text from a byte offset on. -/
def cutAt? (offset : Nat) (text : List Char) : Option (List Char × List Char) :=
  cutFrom [] offset text

/-- The text before, inside and after a span of bytes. -/
def cutSpan? (start stop : Nat) (text : List Char) :
    Option (List Char × List Char × List Char) :=
  if start ≤ stop then
    match cutAt? start text with
    | none => none
    | some (before, rest) =>
      match cutAt? (stop - start) rest with
      | none => none
      | some (inside, behind) => some (before, inside, behind)
  else none

theorem byteLength_nil : byteLength [] = 0 := rfl

theorem byteLength_cons (c : Char) (text : List Char) :
    byteLength (c :: text) = c.utf8Size + byteLength text := rfl

theorem byteLength_append (s t : List Char) :
    byteLength (s ++ t) = byteLength s + byteLength t := by
  induction s with
  | nil => simp [byteLength_nil]
  | cons c s ih => simp [byteLength_cons, ih, Nat.add_assoc]

end ConsoleLinks.Text
