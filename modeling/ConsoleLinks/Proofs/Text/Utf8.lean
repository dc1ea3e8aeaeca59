/-
Line feeds and the reading of UTF-8: a text is cut into lines before it
is read or after, with the same result (`pieces_decode`).

# Why the order does not matter

A byte of ASCII continues no character, so it ends whatever has been begun
and is then read as itself (`step_ascii`). No other byte can bring its
character about, not even as the last of several: the numbers that longer
forms come to are too large for that (`Begun.Sound`, `mem_step`). And what
is read after it does not depend on what was read before it
(`finish_behind`).

Consumed by the filter (`Proofs/Filter/Lines.lean`), which cuts bytes, and
by the law of the two line ends (`Proofs/Filter/Returns.lean`), which needs
the same of the carriage return.
-/
import ConsoleLinks.Text.Utf8
import ConsoleLinks.Proofs.Text.Pieces

namespace ConsoleLinks.Text.Utf8

-- ===================================================== begun characters

/-- A beginning that only bytes above ASCII continue and that comes to no
number of ASCII: the bits read are enough for that, or the next byte has
to bring them. -/
structure Begun.Sound (b : Begun) : Prop where
  least : 0x80 ≤ b.least
  greatest : b.greatest ≤ 0xbf
  value : 2 ≤ b.value ∨ 1 < b.left ∧ (1 ≤ b.value ∨ 0x90 ≤ b.least)

/-- Every first byte makes such a beginning. -/
theorem sound_of_opening {byte : Nat} {begun : Begun}
    (h : opening byte = .first begun) : begun.Sound := by
  unfold opening at h
  -- one case for each range of first bytes, none for the other bytes
  repeat' split at h
  all_goals simp only [reduceCtorEq, Opening.first.injEq] at h
  all_goals subst h
  all_goals constructor
  all_goals dsimp only
  all_goals omega

/-- A byte that is a character by itself is that of its number. -/
theorem eq_ofNat_of_opening {byte : Nat} {c : Char}
    (h : opening byte = .whole c) : c = Char.ofNat byte := by
  unfold opening at h
  repeat' split at h
  all_goals simp only [reduceCtorEq, Opening.whole.injEq] at h
  exact h.symm

/-- One more byte leaves a beginning that is sound, where it does not end
the character. -/
theorem Begun.Sound.next {begun : Begun} (h : begun.Sound) {byte : Nat}
    (hleast : begun.least ≤ byte) (hgreatest : byte ≤ begun.greatest) :
    Begun.Sound ⟨begun.value * 0x40 + byte % 0x40, begun.left - 1, 0x80, 0xbf⟩ := by
  obtain ⟨hlow, hhigh, hvalue⟩ := h
  constructor
  all_goals dsimp only
  all_goals omega

/-- The last byte of a character makes its number too large for ASCII. -/
theorem Begun.Sound.last {begun : Begun} (h : begun.Sound)
    (hleft : begun.left = 1) (byte : Nat) :
    0x80 ≤ begun.value * 0x40 + byte % 0x40 := by
  have hvalue := h.value
  omega

/-- A character is made from its own number only; what is no number of a
character is read as the null character. -/
theorem eq_toNat_of_ofNat {n : Nat} {c : Char} (hpos : 0 < c.toNat)
    (h : Char.ofNat n = c) : n = c.toNat := by
  unfold Char.ofNat at h
  by_cases hvalid : n.isValidChar
  · rw [dif_pos hvalid] at h
    rw [← h]
    rfl
  · rw [dif_neg hvalid] at h
    rw [← h] at hpos
    exact absurd hpos (by decide)

-- ============================================================ one byte

namespace Decoder

/-- What is being read has been begun soundly. -/
def Sound (d : Decoder) : Prop := ∀ begun, d.pending = some begun → begun.Sound

theorem sound_start : start.Sound := fun _ h => by cases h

/-- Where a character can begin, a byte leaves a sound state. -/
theorem sound_fresh (read : List Char) (byte : Nat) : (fresh read byte).Sound := by
  intro begun h
  unfold fresh at h
  split at h
  next => cases h
  next begun' hopening =>
    injection h with h
    rw [← h]
    exact sound_of_opening hopening
  next => cases h

/-- A byte leaves a sound state sound. -/
theorem Sound.step {d : Decoder} (h : d.Sound) (byte : UInt8) :
    (d.step byte).Sound := by
  unfold Decoder.step
  dsimp only
  split
  next => exact sound_fresh d.read byte.toNat
  next begun hpending =>
    have hbegun := h begun hpending
    split
    next hrange =>
      split
      next => exact fun _ hnone => by cases hnone
      next =>
        intro begun' hnext
        injection hnext with hnext
        rw [← hnext]
        exact hbegun.next hrange.1 hrange.2
    next => exact sound_fresh (replacement :: d.read) byte.toNat

/-- A byte of ASCII ends what has been begun and is read as itself. -/
theorem step_ascii {d : Decoder} (h : d.Sound) {byte : UInt8}
    (hbyte : byte.toNat < 0x80) :
    d.step byte = ⟨none, Char.ofNat byte.toNat :: d.finish.reverse⟩ := by
  obtain ⟨pending, read⟩ := d
  cases pending with
  | none => simp [step, finish, fresh, opening, hbyte]
  | some begun =>
      have hleast := (h begun rfl).least
      have hrange : ¬ (begun.least ≤ byte.toNat ∧ byte.toNat ≤ begun.greatest) := by
        omega
      simp only [step, hrange, if_false]
      simp [finish, fresh, opening, hbyte]

section Ascii

variable {c : Char} (hpos : 0 < c.toNat) (hascii : c.toNat < 0x80)
include hpos hascii

theorem ne_replacement : c ≠ replacement := by
  rintro rfl
  exact absurd hascii (by decide)

/-- Where a character can begin, only its own byte makes a character of
ASCII. -/
theorem mem_fresh {read : List Char} {byte : Nat} (h : c ∈ (fresh read byte).read) :
    c ∈ read ∨ byte = c.toNat := by
  unfold fresh at h
  split at h
  next c' hopening =>
    rcases List.mem_cons.1 h with heq | h
    · rw [eq_ofNat_of_opening hopening] at heq
      exact .inr (eq_toNat_of_ofNat hpos heq.symm)
    · exact .inl h
  next => exact .inl h
  next =>
    rcases List.mem_cons.1 h with heq | h
    · exact absurd heq (ne_replacement hpos hascii)
    · exact .inl h

/-- Only its own byte makes a character of ASCII. -/
theorem mem_step {d : Decoder} (hd : d.Sound) {byte : UInt8}
    (h : c ∈ (d.step byte).read) : c ∈ d.read ∨ byte.toNat = c.toNat := by
  unfold step at h
  dsimp only at h
  split at h
  next => exact mem_fresh hpos hascii h
  next begun hpending =>
    split at h
    next =>
      split at h
      next hleft =>
        have hvalue := (hd begun hpending).last hleft byte.toNat
        rcases List.mem_cons.1 h with heq | h
        · have hnumber := eq_toNat_of_ofNat hpos heq.symm
          omega
        · exact .inl h
      next => exact .inl h
    next =>
      rcases mem_fresh hpos hascii h with hread | hbyte
      · rcases List.mem_cons.1 hread with heq | hread
        · exact absurd heq (ne_replacement hpos hascii)
        · exact .inl hread
      · exact .inr hbyte

/-- Bytes make a character of ASCII only where its own byte is among
them. -/
theorem mem_foldl {bytes : List UInt8} {d : Decoder} (hd : d.Sound)
    (h : c ∈ (bytes.foldl step d).read) :
    c ∈ d.read ∨ ∃ byte ∈ bytes, byte.toNat = c.toNat := by
  induction bytes generalizing d with
  | nil => exact .inl h
  | cons byte bytes ih =>
      rcases ih (hd.step byte) h with hread | ⟨byte', hmem, hbyte⟩
      · rcases mem_step hpos hascii hd hread with hread | hbyte
        · exact .inl hread
        · exact .inr ⟨byte, List.mem_cons_self .., hbyte⟩
      · exact .inr ⟨byte', List.mem_cons_of_mem byte hmem, hbyte⟩

/-- What has been begun is not read as a character of ASCII. -/
theorem mem_read_of_mem_finish {d : Decoder} (h : c ∈ d.finish) : c ∈ d.read := by
  obtain ⟨pending, read⟩ := d
  cases pending with
  | none => simpa [finish] using h
  | some begun => simpa [finish, ne_replacement hpos hascii] using h

end Ascii

/-- A byte is read as a character, or at least begins one. -/
theorem finish_step_ne_nil (d : Decoder) (byte : UInt8) :
    (d.step byte).finish ≠ [] := by
  have hfinish : ∀ d : Decoder, (d.pending = none → d.read ≠ []) →
      d.finish ≠ [] := by
    rintro ⟨pending, read⟩ h
    cases pending with
    | none => simpa [finish] using h
    | some begun => simp [finish]
  have hfresh : ∀ read n, (fresh read n).finish ≠ [] := by
    intro read n
    unfold fresh
    split
    next => exact hfinish _ fun _ => List.cons_ne_nil _ _
    next => exact hfinish _ fun hnone => by cases hnone
    next => exact hfinish _ fun _ => List.cons_ne_nil _ _
  unfold step
  dsimp only
  split
  next => exact hfresh _ _
  next =>
    split
    next =>
      split
      next => exact hfinish _ fun _ => List.cons_ne_nil _ _
      next => exact hfinish _ fun hnone => by cases hnone
    next => exact hfresh _ _

-- ========================================================== many bytes

/-- Sound states stay sound. -/
theorem Sound.foldl {d : Decoder} (h : d.Sound) (bytes : List UInt8) :
    (bytes.foldl Decoder.step d).Sound := by
  induction bytes generalizing d with
  | nil => exact h
  | cons byte bytes ih => exact ih (h.step byte)

/-- The same state behind more characters that have been read. -/
def behind (before : List Char) (d : Decoder) : Decoder :=
  ⟨d.pending, d.read ++ before⟩

/-- What has been read has no part in what a byte is read as. -/
theorem step_behind (before : List Char) (d : Decoder) (byte : UInt8) :
    (d.behind before).step byte = (d.step byte).behind before := by
  have hfresh : ∀ read n, fresh (read ++ before) n = (fresh read n).behind before := by
    intro read n
    unfold fresh
    split
    next => rfl
    next => rfl
    next => rfl
  obtain ⟨pending, read⟩ := d
  cases pending with
  | none => exact hfresh read byte.toNat
  | some begun =>
      simp only [step, behind]
      split
      next =>
        split
        next => rfl
        next => rfl
      next => exact hfresh (replacement :: read) byte.toNat

/-- What has been read has no part in what bytes are read as. -/
theorem foldl_behind (before : List Char) (d : Decoder) (bytes : List UInt8) :
    bytes.foldl step (d.behind before) = (bytes.foldl step d).behind before := by
  induction bytes generalizing d with
  | nil => rfl
  | cons byte bytes ih =>
      rw [List.foldl_cons, step_behind, ih]
      rfl

/-- What has been read stays in front. -/
theorem finish_behind (before : List Char) (d : Decoder) :
    (d.behind before).finish = before.reverse ++ d.finish := by
  obtain ⟨pending, read⟩ := d
  cases pending with
  | none => simp [finish, behind]
  | some begun => simp [finish, behind]

end Decoder

-- =============================================================== texts

open Decoder

/-- A byte of ASCII parts the bytes in front of it from those behind it. -/
theorem decode_append_ascii (front back : List UInt8) {byte : UInt8}
    (hbyte : byte.toNat < 0x80) :
    decode (front ++ byte :: back)
      = decode front ++ Char.ofNat byte.toNat :: decode back := by
  have hsound : (front.foldl step start).Sound := sound_start.foldl front
  have hstep : (front.foldl step start).step byte
      = start.behind (Char.ofNat byte.toNat :: (decode front).reverse) :=
    step_ascii hsound hbyte
  unfold decode
  rw [List.foldl_append, List.foldl_cons, hstep, foldl_behind, finish_behind]
  simp [decode]

theorem decode_append_newline (front back : List UInt8) :
    decode (front ++ 0x0a :: back) = decode front ++ '\n' :: decode back :=
  decode_append_ascii front back (by decide)

/-- A text holds a character of ASCII only where its bytes hold the byte of
it. -/
theorem exists_of_mem_decode {bytes : List UInt8} {c : Char} (hpos : 0 < c.toNat)
    (hascii : c.toNat < 0x80) (h : c ∈ decode bytes) :
    ∃ byte ∈ bytes, byte.toNat = c.toNat := by
  have hread := mem_read_of_mem_finish hpos hascii h
  rcases mem_foldl hpos hascii sound_start hread with hnil | hbyte
  · cases hnil
  · exact hbyte

/-- Bytes without a line feed are read as a text without one. -/
theorem newline_not_mem_decode {bytes : List UInt8} (h : 0x0a ∉ bytes) :
    '\n' ∉ decode bytes := by
  intro hmem
  obtain ⟨byte, hbyte, hnat⟩ := exists_of_mem_decode (by decide) (by decide) hmem
  have heq : byte = 0x0a := UInt8.toNat.inj hnat
  exact h (heq ▸ hbyte)

/-- A text ends in a character of ASCII only where its bytes end in the
byte of it. -/
theorem toNat_of_getLast?_decode {front : List UInt8} {byte : UInt8} {c : Char}
    (hpos : 0 < c.toNat) (hascii : c.toNat < 0x80)
    (h : (decode (front ++ [byte])).getLast? = some c) : byte.toNat = c.toNat := by
  have hd : (front.foldl step start).Sound := sound_start.foldl front
  cases hfold : front.foldl step start with
  | mk pending read =>
      rw [hfold] at hd
      have hsound : Sound ⟨pending, []⟩ := hd
      -- the characters read so far stay in front of what the last byte adds
      have hdecode : decode (front ++ [byte])
          = read.reverse ++ (step ⟨pending, []⟩ byte).finish := by
        have hbehind : (⟨pending, read⟩ : Decoder) = behind read ⟨pending, []⟩ := rfl
        unfold decode
        rw [List.foldl_append, List.foldl_cons, List.foldl_nil, hfold, hbehind,
          step_behind, finish_behind]
      have hne := finish_step_ne_nil ⟨pending, []⟩ byte
      rw [hdecode, List.getLast?_append, List.getLast?_eq_some_getLast hne] at h
      have hmem : c ∈ (step ⟨pending, []⟩ byte).finish :=
        Option.some.inj h ▸ List.getLast_mem hne
      have hread := mem_read_of_mem_finish hpos hascii hmem
      rcases mem_step hpos hascii hsound hread with hnil | hbyte
      · cases hnil
      · exact hbyte

/-- Only no bytes are read as no text. -/
theorem decode_eq_nil_iff {bytes : List UInt8} : decode bytes = [] ↔ bytes = [] := by
  constructor
  · intro h
    rcases List.eq_nil_or_concat bytes with hnil | ⟨front, last, hbytes⟩
    · exact hnil
    · unfold decode at h
      rw [hbytes, List.concat_eq_append, List.foldl_append] at h
      exact absurd h (finish_step_ne_nil _ last)
  · rintro rfl
    rfl

/-- The lines of the text are the texts of the lines. -/
theorem pieces_decode (bytes : List UInt8) :
    pieces '\n' (decode bytes) = (pieces 0x0a bytes).map decode := by
  obtain ⟨parts, last, hparts⟩ := exists_eq_concat_pieces 0x0a bytes
  have hbytes := ended_append_of_pieces hparts
  have hplain : ∀ part ∈ parts ++ [last], '\n' ∉ decode part := fun part hmem =>
    newline_not_mem_decode (not_mem_of_mem_pieces (hparts ▸ hmem))
  have hdecode : decode bytes = ended '\n' (parts.map decode) ++ decode last := by
    rw [← hbytes]
    clear hbytes hplain hparts
    induction parts with
    | nil => rfl
    | cons part parts ih =>
        rw [ended_cons, List.append_assoc, List.cons_append,
          decode_append_newline, ih, List.map_cons, ended_cons, List.append_assoc]
        rfl
  rw [hdecode, hparts, List.map_append, List.map_singleton]
  refine pieces_ended_append (fun text hmem => ?_)
    (hplain last (List.mem_append_right _ (List.mem_singleton_self last)))
  obtain ⟨part, hpart, rfl⟩ := List.mem_map.1 hmem
  exact hplain part (List.mem_append_left _ hpart)

end ConsoleLinks.Text.Utf8
