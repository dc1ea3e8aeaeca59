/-
Texts as bytes: where their characters begin, and what stands before a
span of bytes, in it and behind it.

An offset is a boundary of some bytes where a character begins or the
bytes end, which the byte at the offset tells (`IsBoundary`). Of the bytes
of one character only the first can begin one, so the boundaries of a
text's bytes are the lengths of its front parts
(`isBoundary_bytes_iff`), and a span is a stretch of the text exactly
where its ends are boundaries in order (`isSome_cutSpan?_iff`). The parts
of such a cut are read off the bytes without a look at the characters
(`bytes_of_cutSpan?`).
-/
import ConsoleLinks.Proofs.Text.Cut

namespace ConsoleLinks.Text

-- ============================================================ the bytes

theorem bytes_cons (c : Char) (text : List Char) :
    bytes (c :: text) = String.utf8EncodeChar c ++ bytes text := rfl

theorem bytes_append (s t : List Char) : bytes (s ++ t) = bytes s ++ bytes t :=
  List.flatMap_append

theorem length_bytes (text : List Char) : (bytes text).length = byteLength text := by
  induction text with
  | nil => rfl
  | cons c text ih =>
      rw [bytes_cons, List.length_append, String.length_utf8EncodeChar, ih, byteLength_cons]

-- ======================================================= the boundaries

/-- A character begins at the offset, or the bytes end there. -/
def IsBoundary (bytes : List UInt8) (offset : Nat) : Prop :=
  offset = bytes.length ∨ ∃ byte ∈ bytes[offset]?, byte.IsUTF8FirstByte

instance (bytes : List UInt8) (offset : Nat) : Decidable (IsBoundary bytes offset) :=
  inferInstanceAs (Decidable (_ ∨ _))

theorem IsBoundary.le_length {bytes : List UInt8} {offset : Nat}
    (h : IsBoundary bytes offset) : offset ≤ bytes.length := by
  rcases h with hend | ⟨byte, hbyte, -⟩
  · exact Nat.le_of_eq hend
  · exact Nat.le_of_lt (List.getElem?_eq_some_iff.1 hbyte).1

/-- Boundaries are told by what stands behind them. -/
theorem isBoundary_append_iff (front bytes : List UInt8) (offset : Nat) :
    IsBoundary (front ++ bytes) (front.length + offset) ↔ IsBoundary bytes offset := by
  unfold IsBoundary
  rw [List.getElem?_append_right (Nat.le_add_right ..), Nat.add_sub_cancel_left,
    List.length_append, Nat.add_left_cancel_iff]

/-- A text begins at a boundary. -/
theorem isBoundary_bytes_zero (text : List Char) : IsBoundary (bytes text) 0 := by
  cases text with
  | nil => exact .inl rfl
  | cons c text =>
      have hlength : 0 < (String.utf8EncodeChar c).length := by
        rw [String.length_utf8EncodeChar]
        exact c.utf8Size_pos
      refine .inr ⟨(String.utf8EncodeChar c)[0], ?_,
        UInt8.isUTF8FirstByte_getElem_utf8EncodeChar.2 rfl⟩
      rw [bytes_cons, List.getElem?_append_left hlength]
      exact List.getElem?_eq_getElem hlength

/-- No character begins inside another. -/
theorem not_isBoundary_inside {c : Char} {text : List Char} {offset : Nat}
    (hpos : 0 < offset) (hlt : offset < c.utf8Size) :
    ¬ IsBoundary (bytes (c :: text)) offset := by
  have hlength : offset < (String.utf8EncodeChar c).length := by
    rw [String.length_utf8EncodeChar]
    exact hlt
  intro h
  rcases h with hend | ⟨byte, hbyte, hfirst⟩
  · rw [length_bytes, byteLength_cons] at hend
    omega
  · rw [bytes_cons, List.getElem?_append_left hlength,
      List.getElem?_eq_getElem hlength] at hbyte
    injection hbyte with hbyte
    rw [← hbyte, UInt8.isUTF8FirstByte_getElem_utf8EncodeChar] at hfirst
    omega

/-- The boundaries of a text's bytes are the lengths of its front parts. -/
theorem isBoundary_bytes_iff {text : List Char} {offset : Nat} :
    IsBoundary (bytes text) offset
      ↔ ∃ before rest, text = before ++ rest ∧ byteLength before = offset := by
  constructor
  · intro h
    induction text generalizing offset with
    | nil =>
        have hle := h.le_length
        exact ⟨[], [], rfl, (Nat.le_zero.1 hle).symm⟩
    | cons c text ih =>
        by_cases hzero : offset = 0
        · exact ⟨[], c :: text, rfl, hzero.symm⟩
        have hsize : c.utf8Size ≤ offset := by
          refine Nat.le_of_not_lt fun hlt => ?_
          exact not_isBoundary_inside (Nat.pos_of_ne_zero hzero) hlt h
        obtain ⟨more, hmore⟩ := Nat.exists_eq_add_of_le hsize
        rw [bytes_cons, hmore, ← String.length_utf8EncodeChar,
          isBoundary_append_iff] at h
        obtain ⟨before, rest, htext, hbefore⟩ := ih h
        refine ⟨c :: before, rest, congrArg (c :: ·) htext, ?_⟩
        rw [byteLength_cons, hbefore, hmore]
  · intro ⟨before, rest, htext, hbefore⟩
    have hzero := (isBoundary_append_iff (bytes before) (bytes rest) 0).2
      (isBoundary_bytes_zero rest)
    rw [Nat.add_zero, length_bytes, hbefore, ← bytes_append, ← htext] at hzero
    exact hzero

-- ============================================================ the spans

variable {start stop : Nat} {text : List Char}

/-- Of two front parts of a text, the one with fewer bytes begins the
other. -/
theorem exists_of_byteLength_le {before rest before' rest' : List Char}
    (h : before ++ rest = before' ++ rest')
    (hle : byteLength before ≤ byteLength before') :
    ∃ inside, before' = before ++ inside := by
  rcases List.append_eq_append_iff.1 h with ⟨inside, hbefore', -⟩ | ⟨excess, hbefore, -⟩
  · exact ⟨inside, hbefore'⟩
  · rw [hbefore, byteLength_append] at hle
    have hexcess : excess = [] := eq_nil_of_byteLength_eq_zero (by omega)
    exact ⟨[], by rw [hbefore, hexcess, List.append_nil, List.append_nil]⟩

/-- A span is a stretch of the text exactly where its ends are boundaries,
in order. -/
theorem isSome_cutSpan?_iff :
    (cutSpan? start stop text).isSome = true
      ↔ start ≤ stop ∧ IsBoundary (bytes text) start ∧ IsBoundary (bytes text) stop := by
  constructor
  · intro h
    obtain ⟨⟨before, inside, behind⟩, hcut⟩ := Option.isSome_iff_exists.1 h
    obtain ⟨htext, hstart, hstop⟩ := cutSpan?_eq_some_iff.1 hcut
    refine ⟨by omega, isBoundary_bytes_iff.2 ⟨before, inside ++ behind, ?_, hstart⟩,
      isBoundary_bytes_iff.2 ⟨before ++ inside, behind, htext, ?_⟩⟩
    · rw [htext, List.append_assoc]
    · rw [byteLength_append, hstop]
  · intro ⟨hle, hstart, hstop⟩
    obtain ⟨before, rest, htext, hbefore⟩ := isBoundary_bytes_iff.1 hstart
    obtain ⟨upto, behind, htext', hupto⟩ := isBoundary_bytes_iff.1 hstop
    obtain ⟨inside, hinside⟩ :=
      exists_of_byteLength_le (htext.symm.trans htext') (by omega)
    have hcut : cutSpan? start stop text = some (before, inside, behind) := by
      refine cutSpan?_eq_some_iff.2 ⟨by rw [htext', hinside], hbefore, ?_⟩
      rw [← byteLength_append, ← hinside, hupto]
    rw [hcut]
    rfl

/-- The parts of a cut, as bytes. -/
theorem bytes_of_cutSpan? {before inside behind : List Char}
    (h : cutSpan? start stop text = some (before, inside, behind)) :
    bytes before = (bytes text).take start
      ∧ bytes inside = ((bytes text).take stop).drop start
      ∧ bytes behind = (bytes text).drop stop := by
  obtain ⟨htext, hstart, hstop⟩ := cutSpan?_eq_some_iff.1 h
  have hstart' : (bytes before).length = start := (length_bytes before).trans hstart
  have hstop' : (bytes before ++ bytes inside).length = stop := by
    rw [List.length_append, length_bytes, length_bytes, hstop]
  have hbytes : bytes text = bytes before ++ bytes inside ++ bytes behind := by
    rw [htext, bytes_append, bytes_append]
  refine ⟨?_, ?_, ?_⟩
  · rw [hbytes, List.append_assoc, List.take_left' hstart']
  · rw [hbytes, List.take_left' hstop', List.drop_left' hstart']
  · rw [hbytes, List.drop_left' hstop']

end ConsoleLinks.Text
