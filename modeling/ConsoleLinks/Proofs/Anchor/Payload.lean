/-
Links hold what their target says and nothing else, whatever a console
line makes of the target's texts.

# The two readers

Markup is read up to the single quote that closes the attribute
(`href?`), and the value of the attribute is read as a call: the scheme up
to the first colon, the name of the call up to the first parenthesis, its
arguments up to the closing mark, and nothing behind it (`readPayload?`).

# The law

With the settings of an accepted configuration both readers find what was
written (`Config.anchor_sealed`). Two things are joined: the scheme and
the call are written as they are, so validation has to keep the marks out
of them that end them or mean something in markup; the texts of the target
are arbitrary, so the escaping has to (`Literal.lean`, `Arguments.lean`).
-/
import ConsoleLinks.Proofs.Anchor.Arguments
import ConsoleLinks.Proofs.Config.Validation

namespace ConsoleLinks

open Text

namespace Anchor

-- ======================================================== the readers

/-- The value of the attribute that the markup of a link begins with. -/
def href? (markup : List Char) : Option (List Char) :=
  match afterWord? "<a href='".toList markup with
  | none => none
  | some rest =>
    match rest.dropWhile (· ≠ '\'') with
    | [] => none
    | _ :: _ => some (rest.takeWhile (· ≠ '\''))

/-- A payload, as it is meant. -/
structure Invocation where
  /-- The scheme, its colon included. -/
  scheme : List Char
  call : List Char
  arguments : List Argument
deriving DecidableEq

/-- Reads a payload as a whole. -/
def readPayload? (text : List Char) : Option Invocation :=
  match text.dropWhile (· ≠ ':') with
  | [] => none
  | _ :: rest =>
    match rest.dropWhile (· ≠ '(') with
    | [] => none
    | _ :: inside =>
      match readArguments? inside with
      | some (arguments, []) =>
        some ⟨text.takeWhile (· ≠ ':') ++ [':'], rest.takeWhile (· ≠ '('),
          arguments⟩
      | _ => none

-- =============================================== the unescaped parts

/-- Letters, digits and marks of schemes and calls: harmless, and neither
a colon nor a parenthesis. -/
theorem isHarmless_of_isAlphanum {c : Char} (h : c.isAlphanum = true) :
    isHarmless c = true ∧ c ≠ ':' ∧ c ≠ '(' := by
  simp only [Char.isAlphanum, Bool.or_eq_true] at h
  have hrange : 48 ≤ c.toNat ∧ c.toNat ≤ 57 ∨ 65 ≤ c.toNat ∧ c.toNat ≤ 122 := by
    rcases h with h | h
    · have hletter := toNat_of_isAlpha h
      omega
    · exact .inl (toNat_of_isDigit h)
  refine ⟨isHarmless_of_toNat (by omega) (by omega) (by omega) (by omega), ?_, ?_⟩
  · rintro rfl
    revert hrange
    decide
  · rintro rfl
    revert hrange
    decide

/-- What the name of a scheme is made of. -/
theorem isHarmless_of_isSchemeChar {c : Char} (h : isSchemeChar c = true) :
    isHarmless c = true ∧ c ≠ ':' := by
  simp only [isSchemeChar, Bool.or_eq_true, decide_eq_true_eq] at h
  rcases h with ((h | rfl) | rfl) | rfl
  · exact ⟨(isHarmless_of_isAlphanum h).1, (isHarmless_of_isAlphanum h).2.1⟩
  · decide
  · decide
  · decide

/-- What the name of a call is made of. -/
theorem isHarmless_of_mem_call {text : String} (h : isCallName text = true) :
    ∀ c ∈ text.toList, isHarmless c = true ∧ c ≠ '(' := by
  intro c hc
  rcases alphanum_or_mark_of_mem_call h c hc with hc | rfl | rfl
  · exact ⟨(isHarmless_of_isAlphanum hc).1, (isHarmless_of_isAlphanum hc).2.2⟩
  · decide
  · decide

-- ============================================================ the law

variable {settings : AnchorSettings}

/-- A payload has no meaning in the markup around it. -/
theorem isHarmless_of_mem_payload (hscheme : isScheme settings.scheme = true)
    (hcalls : ∀ a, isCallName (settings.call a) = true)
    (target : NavigationTarget) :
    ∀ c ∈ payload settings target, isHarmless c = true := by
  obtain ⟨name, hname, hchars⟩ := exists_name_of_isScheme hscheme
  have hcall := isHarmless_of_mem_call (hcalls target.action)
  have hseparator : ∀ c ∈ ',' :: blankOf target, isHarmless c = true := by
    rcases blankOf_eq target with hblank | hblank
    · rw [hblank]
      exact List.all_eq_true.1 rfl
    · rw [hblank]
      exact List.all_eq_true.1 rfl
  unfold payload
  rw [hname, argumentsOf_eq_listed]
  simp only [List.forall_mem_append]
  refine ⟨⟨⟨⟨⟨?_, List.all_eq_true.1 rfl⟩, fun c hc => (hcall c hc).1⟩,
    List.all_eq_true.1 rfl⟩, ?_⟩, List.all_eq_true.1 rfl⟩
  · exact fun c hc => (isHarmless_of_isSchemeChar (hchars c hc)).1
  · exact isHarmless_of_mem_listed hseparator (fields target)

/-- A harmless payload is the whole value of its attribute. -/
theorem href?_anchor {target : NavigationTarget}
    (h : ∀ c ∈ payload settings target, isHarmless c = true)
    (visible : List Char) :
    href? (anchor settings target visible)
      = some (payload settings target) := by
  have hrun : ∀ c ∈ payload settings target, decide (c ≠ '\'') = true := by
    intro c hc
    have hharmless := h c hc
    simp only [isHarmless, Bool.and_eq_true] at hharmless
    exact hharmless.1.1
  have hclose : "'>".toList = ['\'', '>'] := by decide
  have hmarkup : ∀ front,
      front ++ payload settings target ++ "'>".toList ++ visible ++ closingTag
        = front ++ (payload settings target
            ++ '\'' :: '>' :: (visible ++ closingTag)) := by
    intro front
    rw [hclose]
    simp only [List.append_assoc, List.cons_append, List.nil_append]
  unfold href? anchor openingTag
  rw [hmarkup, afterWord?_append]
  dsimp only
  rw [dropWhile_append_of_boundary hrun (by simp),
    takeWhile_append_of_boundary hrun (by simp)]

/-- A payload is read back: scheme, call and fields. -/
theorem readPayload?_payload (hscheme : isScheme settings.scheme = true)
    (hcalls : ∀ a, isCallName (settings.call a) = true)
    (target : NavigationTarget) :
    readPayload? (payload settings target)
      = some ⟨settings.scheme.toList, (settings.call target.action).toList,
          fields target⟩ := by
  obtain ⟨name, hname, hchars⟩ := exists_name_of_isScheme hscheme
  have hscheme' : ∀ c ∈ name, decide (c ≠ ':') = true :=
    fun c hc => decide_eq_true (isHarmless_of_isSchemeChar (hchars c hc)).2
  have hcall : ∀ c ∈ (settings.call target.action).toList,
      decide (c ≠ '(') = true := by
    intro c hc
    exact decide_eq_true (isHarmless_of_mem_call (hcalls target.action) c hc).2
  have hpayload : payload settings target
      = name ++ ':' :: ((settings.call target.action).toList
          ++ '(' :: (argumentsOf target ++ ')' :: ';' :: [])) := by
    have hclose : ");".toList = [')', ';'] := by decide
    simp [payload, hname, hclose]
  unfold readPayload?
  rw [hpayload, dropWhile_append_of_boundary hscheme' (by simp),
    takeWhile_append_of_boundary hscheme' (by simp)]
  dsimp only
  rw [dropWhile_append_of_boundary hcall (by simp),
    takeWhile_append_of_boundary hcall (by simp)]
  dsimp only
  rw [readArguments?_argumentsOf, hname]

end Anchor

/-- No text of a target gets out of its link. With the settings of an
accepted configuration, the value of the link's attribute is the payload
to its end and has neither an ampersand nor a control character in it; and
the payload is read, to its end, as the scheme of the settings, the call
for the target's action and the fields of the target. -/
theorem Config.anchor_sealed {c accepted : Config} (h : c.validate = .ok accepted)
    (target : NavigationTarget) (visible : List Char) :
    Anchor.href? (Anchor.anchor c.anchor target visible)
        = some (Anchor.payload c.anchor target)
      ∧ '&' ∉ Anchor.payload c.anchor target
      ∧ (∀ d ∈ Anchor.payload c.anchor target, Anchor.isControl d = false)
      ∧ Anchor.readPayload? (Anchor.payload c.anchor target)
          = some ⟨c.anchor.scheme.toList, (c.anchor.call target.action).toList,
              Anchor.fields target⟩ := by
  obtain ⟨hscheme, hcalls⟩ := names_of_validate h
  have hharmless := Anchor.isHarmless_of_mem_payload hscheme hcalls target
  refine ⟨Anchor.href?_anchor hharmless visible, fun hmem => ?_, fun d hd => ?_,
    Anchor.readPayload?_payload hscheme hcalls target⟩
  · have hand := hharmless '&' hmem
    revert hand
    decide
  · have hd' := hharmless d hd
    simp only [Anchor.isHarmless, Bool.and_eq_true, Bool.not_eq_true'] at hd'
    exact hd'.2

/-- The default settings, and a target whose texts try every way out. -/
theorem Config.anchor_sealed_default :
    ({} : Config).validate = .ok {}
      ∧ (Anchor.href? (Anchor.anchor {}
            (.openProjectFile "it's\\" (some "\",null);&#39;\n") 3 4294967295)
            "x'y".toList)
          = some (Anchor.payload {}
            (.openProjectFile "it's\\" (some "\",null);&#39;\n") 3 4294967295))
        ∧ '&' ∉ Anchor.payload {}
            (.openProjectFile "it's\\" (some "\",null);&#39;\n") 3 4294967295)
        ∧ (∀ d ∈ Anchor.payload {}
            (.openProjectFile "it's\\" (some "\",null);&#39;\n") 3 4294967295),
            Anchor.isControl d = false)
        ∧ Anchor.readPayload? (Anchor.payload {}
            (.openProjectFile "it's\\" (some "\",null);&#39;\n") 3 4294967295))
          = some ⟨"javascript:".toList, "openCSCM".toList,
              [.text "it's\\".toList, .text "\",null);&#39;\n".toList, .number 3,
                .number 4294967295]⟩) :=
  ⟨validate_default, anchor_sealed validate_default _ _⟩

end ConsoleLinks
