/-
A link around a span of a line: where there is one, what becomes of the
bytes, and how to get the line back.

# Slices

The offsets of a span come from outside, so they can be reversed, lie
beyond the line or inside a character. Read as a program over bytes,
wrapping asks for one slice that is checked and then for two that are not
(`wrapSlices`): what stands before the span and what stands behind it. An
unchecked slice that does not begin and end where characters do is out of
range. The one check covers the other two slices, so that fault never
arises, and over the bytes of a text the program comes to what `wrap` does
to its characters (`wrapSlices_bytes`).

# The line again

Markup is only put in. With the tag in front of the visible text taken out
at the start of the span, the rest of the line lies where it lay, so that
the tag behind it begins at the end of the span; without both the bytes are
those of the line (`takeOut_tags`).

Both are one statement over every span in `wrap_only_adds_tags`.
-/
import ConsoleLinks.Anchor.Payload
import ConsoleLinks.Proofs.Text.Boundary

namespace ConsoleLinks.Anchor

open Text

-- =========================================================== the slices

/-- What an unchecked slice comes to where it would cut a character or
reach beyond the bytes. -/
structure OutOfRange where
  /-- The end of the slice that is no boundary. -/
  offset : Nat
deriving DecidableEq, Repr

/-- The bytes of a span, if its ends are boundaries in order. -/
def slice? (span : Span) (line : List UInt8) : Option (List UInt8) :=
  if span.start ≤ span.stop ∧ IsBoundary line span.start ∧ IsBoundary line span.stop then
    some ((line.take span.stop).drop span.start)
  else none

/-- The bytes before an offset, unchecked. -/
def sliceTo (stop : Nat) (line : List UInt8) : Except OutOfRange (List UInt8) :=
  if IsBoundary line stop then .ok (line.take stop) else .error ⟨stop⟩

/-- The bytes from an offset on, unchecked. -/
def sliceFrom (start : Nat) (line : List UInt8) : Except OutOfRange (List UInt8) :=
  if IsBoundary line start then .ok (line.drop start) else .error ⟨start⟩

/-- Visible bytes inside the anchor for a target. -/
def anchorBytes (settings : AnchorSettings) (target : NavigationTarget)
    (visible : List UInt8) : List UInt8 :=
  bytes (openingTag settings target) ++ visible ++ bytes closingTag

/-- The bytes of a line with a span of them inside the anchor for a target,
slice by slice. -/
def wrapSlices (settings : AnchorSettings) (line : List UInt8) (span : Span)
    (target : NavigationTarget) : Except OutOfRange (Option (List UInt8)) :=
  match slice? span line with
  | none => .ok none
  | some visible => do
    let before ← sliceTo span.start line
    let behind ← sliceFrom span.stop line
    return some (before ++ anchorBytes settings target visible ++ behind)

section Wrapping

variable {settings : AnchorSettings} {line : List Char} {span : Span}
  {target : NavigationTarget}

/-- A span is wrapped where it can be cut out. -/
theorem wrap_eq_map :
    wrap settings line span target
      = (cutSpan? span.start span.stop line).map fun (before, visible, behind) =>
          before ++ anchor settings target visible ++ behind := by
  unfold wrap
  cases cutSpan? span.start span.stop line with
  | none => rfl
  | some cut => rfl

/-- A line is wrapped where both ends of the span are boundaries of its
bytes, in order. -/
theorem isSome_wrap_iff :
    (wrap settings line span target).isSome = true
      ↔ span.start ≤ span.stop ∧ IsBoundary (bytes line) span.start
          ∧ IsBoundary (bytes line) span.stop := by
  rw [wrap_eq_map, Option.isSome_map, isSome_cutSpan?_iff]

/-- What a line is wrapped to, as bytes. -/
theorem bytes_of_wrap {out : List Char} (h : wrap settings line span target = some out) :
    bytes out = (bytes line).take span.start
      ++ anchorBytes settings target (((bytes line).take span.stop).drop span.start)
      ++ (bytes line).drop span.stop := by
  rw [wrap_eq_map] at h
  obtain ⟨⟨before, visible, behind⟩, hcut, hout⟩ := Option.map_eq_some_iff.1 h
  obtain ⟨hbefore, hvisible, hbehind⟩ := bytes_of_cutSpan? hcut
  rw [← hout, ← hbefore, ← hvisible, ← hbehind]
  unfold anchorBytes anchor
  simp only [bytes_append]

/-- No slice is out of range, and the bytes come to those of the wrapped
line. -/
theorem wrapSlices_bytes :
    wrapSlices settings (bytes line) span target
      = .ok ((wrap settings line span target).map bytes) := by
  unfold wrapSlices slice?
  by_cases hspan : span.start ≤ span.stop ∧ IsBoundary (bytes line) span.start
      ∧ IsBoundary (bytes line) span.stop
  · have hsome : (wrap settings line span target).isSome = true :=
      isSome_wrap_iff.2 hspan
    obtain ⟨out, hwrap⟩ := Option.isSome_iff_exists.1 hsome
    have hbefore : sliceTo span.start (bytes line)
        = .ok ((bytes line).take span.start) := if_pos hspan.2.1
    have hbehind : sliceFrom span.stop (bytes line)
        = .ok ((bytes line).drop span.stop) := if_pos hspan.2.2
    rw [if_pos hspan, hwrap, Option.map_some, bytes_of_wrap hwrap]
    dsimp only
    rw [hbefore, hbehind]
    rfl
  · have hwrap : wrap settings line span target = none := by
      rw [← Option.not_isSome_iff_eq_none, isSome_wrap_iff]
      exact hspan
    rw [if_neg hspan, hwrap]
    rfl

end Wrapping

-- ======================================================= the line again

/-- The bytes without a word that stands among them at the offset. -/
def takeOut? (word : List UInt8) (offset : Nat) (line : List UInt8) :
    Option (List UInt8) :=
  if word <+: line.drop offset then
    some (line.take offset ++ line.drop (offset + word.length))
  else none

/-- A word between others is taken out where it begins. -/
theorem takeOut?_append {front word back : List UInt8} {offset : Nat}
    (h : front.length = offset) :
    takeOut? word offset (front ++ (word ++ back)) = some (front ++ back) := by
  have hword : (front ++ word).length = offset + word.length := by
    rw [List.length_append, h]
  unfold takeOut?
  rw [List.drop_left' h, List.take_left' h, if_pos (List.prefix_append word back),
    ← List.append_assoc, List.drop_left' hword]

/-- The tags are taken out where the span begins and where it ends. -/
theorem takeOut_tags (settings : AnchorSettings) (target : NavigationTarget)
    {line : List UInt8} {span : Span} (horder : span.start ≤ span.stop)
    (hstop : span.stop ≤ line.length) :
    (takeOut? (bytes (openingTag settings target)) span.start
          (line.take span.start
            ++ anchorBytes settings target ((line.take span.stop).drop span.start)
            ++ line.drop span.stop)).bind
        (takeOut? (bytes closingTag) span.stop)
      = some line := by
  have hbefore : (line.take span.start).length = span.start := by
    rw [List.length_take]
    omega
  have hupto : (line.take span.stop).length = span.stop := by
    rw [List.length_take]
    omega
  -- what stands before the span and the visible bytes make up one front part
  have hfront : line.take span.start ++ (line.take span.stop).drop span.start
      = line.take span.stop := by
    have hsplit := List.take_append_drop span.start (line.take span.stop)
    rw [List.take_take, Nat.min_eq_left horder] at hsplit
    exact hsplit
  unfold anchorBytes
  simp only [List.append_assoc]
  rw [takeOut?_append hbefore, Option.bind_some, ← List.append_assoc, hfront,
    takeOut?_append hupto, List.take_append_drop]

-- ============================================================== the law

/-- Wrapping adds two tags to a stretch of the line and does nothing else,
on every span. No slice that it takes is out of range. It has an answer
exactly where the span's ends are boundaries of the line's bytes, in order
and within them; the answer is the bytes before the span, the anchor around
its bytes and the bytes behind it; and without the tag at the start of the
span, and then without the one at its end, it is the line again. -/
theorem wrap_only_adds_tags (settings : AnchorSettings) (line : List Char)
    (span : Span) (target : NavigationTarget) :
    wrapSlices settings (bytes line) span target
        = .ok ((wrap settings line span target).map bytes)
      ∧ ((wrap settings line span target).isSome = true
          ↔ span.start ≤ span.stop ∧ span.stop ≤ (bytes line).length
            ∧ IsBoundary (bytes line) span.start ∧ IsBoundary (bytes line) span.stop)
      ∧ ∀ out, wrap settings line span target = some out →
          bytes out = (bytes line).take span.start
              ++ (bytes (openingTag settings target)
                ++ ((bytes line).take span.stop).drop span.start
                ++ bytes "</a>".toList)
              ++ (bytes line).drop span.stop
            ∧ (takeOut? (bytes (openingTag settings target)) span.start (bytes out)).bind
                (takeOut? (bytes "</a>".toList) span.stop)
              = some (bytes line) := by
  refine ⟨wrapSlices_bytes, ?_, fun out hout => ⟨bytes_of_wrap hout, ?_⟩⟩
  · rw [isSome_wrap_iff]
    constructor
    · intro ⟨horder, hstart, hstop⟩
      exact ⟨horder, hstop.le_length, hstart, hstop⟩
    · intro ⟨horder, _, hstart, hstop⟩
      exact ⟨horder, hstart, hstop⟩
  · obtain ⟨horder, -, hstop⟩ := isSome_wrap_iff.1 (Option.isSome_of_eq_some hout)
    rw [bytes_of_wrap hout]
    exact takeOut_tags settings target horder hstop.le_length

/-- A character of four bytes between others of two and one, in settings that
make the tag itself look like markup. -/
theorem wrap_only_adds_tags_wideCharacter :
    wrap ⟨"é'>", "", "</a>", ""⟩ "é😀x".toList ⟨2, 6⟩ (.openFile "😀" 1)
        = some "é<a href='é'></a>(\"😀\",1);'>😀</a>x".toList
      ∧ (takeOut? (bytes (openingTag ⟨"é'>", "", "</a>", ""⟩ (.openFile "😀" 1))) 2
            (bytes "é<a href='é'></a>(\"😀\",1);'>😀</a>x".toList)).bind
          (takeOut? (bytes "</a>".toList) 6)
        = some (bytes "é😀x".toList) := by
  have hwrap : wrap ⟨"é'>", "", "</a>", ""⟩ "é😀x".toList ⟨2, 6⟩ (.openFile "😀" 1)
      = some "é<a href='é'></a>(\"😀\",1);'>😀</a>x".toList := by decide
  exact ⟨hwrap, ((wrap_only_adds_tags _ _ _ _).2.2 _ hwrap).2⟩

/-- Spans that are no stretch: one end inside a character, the ends in
reverse, one end beyond the line. -/
example :
    [(⟨1, 2⟩ : Span), ⟨2, 0⟩, ⟨0, 18446744073709551615⟩].map
        (wrap {} "é".toList · (.openFile "a" 1))
      = [none, none, none] := by
  decide

end ConsoleLinks.Anchor
