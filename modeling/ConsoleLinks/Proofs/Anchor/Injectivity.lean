/-
A payload says which target it was written for, whatever the settings.

The scheme and the calls are not trusted here: they can be any texts, equal
to one another, with quotes and parentheses in them. So a reader cannot
start from the front. It starts from the back, where the settings have no
say: behind the last number stands the closing mark, and in front of it a
blank, a quote and a comma, or a number and a comma, one for each action
(`actionAtEnd?_payload`). With the action known, what stands in front of
the arguments is known too, and the arguments are read from the front
(`readArguments?_argumentsOf`).
-/
import ConsoleLinks.Proofs.Anchor.Arguments

namespace ConsoleLinks.Anchor

open Text

-- ========================================================== the end

/-- What precedes the last number of a payload, read backwards. -/
def beforeNumber (payload : List Char) : List Char :=
  (payload.reverse.drop 2).dropWhile Char.isDigit

/-- The action that the end of a payload gives away. -/
def actionAtEnd? (payload : List Char) : Option Action :=
  match beforeNumber payload with
  | ' ' :: _ => some .openSymbol
  | ',' :: '"' :: _ => some .openFile
  | ',' :: _ => some .openProjectFile
  | _ => none

/-- A number is digits, read backwards too. -/
theorem isDigit_of_mem_reverse_number {n : UInt32} {c : Char}
    (h : c ∈ (numberArgument n).reverse) : c.isDigit = true :=
  Decimal.isDigit_of_mem_digits (List.mem_reverse.1 h)

/-- The last number ends where something else than a digit precedes it. -/
theorem beforeNumber_append (front : List Char) (mark : Char)
    (hmark : mark.isDigit = false) (n : UInt32) :
    beforeNumber (front ++ [mark] ++ numberArgument n ++ ");".toList)
      = mark :: front.reverse := by
  have hclose : ");".toList = [')', ';'] := by decide
  have hreverse :
      (front ++ [mark] ++ numberArgument n ++ ");".toList).reverse.drop 2
        = (numberArgument n).reverse ++ mark :: front.reverse := by
    rw [hclose]
    simp
  unfold beforeNumber
  rw [hreverse]
  refine dropWhile_append_of_boundary
    (fun c hc => isDigit_of_mem_reverse_number hc) fun c hc => ?_
  injection hc with hc
  rw [← hc]
  exact hmark

/-- A number read backwards begins with a digit. -/
theorem exists_reverse_number_eq_cons (n : UInt32) :
    ∃ d digits, (numberArgument n).reverse = d :: digits ∧ d ≠ '"' := by
  have hne : (numberArgument n).reverse ≠ [] := by
    rw [ne_eq, List.reverse_eq_nil_iff]
    exact Decimal.digits_ne_nil n.toNat
  obtain ⟨d, digits, hnumber⟩ := List.exists_cons_of_ne_nil hne
  refine ⟨d, digits, hnumber, ?_⟩
  rintro rfl
  have hdigit := isDigit_of_mem_reverse_number (n := n) (c := '"')
    (hnumber ▸ List.mem_cons_self ..)
  revert hdigit
  decide

/-- The end of a payload gives its target's action away. -/
theorem actionAtEnd?_payload (settings : AnchorSettings)
    (target : NavigationTarget) :
    actionAtEnd? (payload settings target) = some target.action := by
  have hcomma : ", ".toList = [',', ' '] := by decide
  unfold actionAtEnd? payload
  generalize settings.scheme.toList ++ (settings.call target.action).toList = front
  cases target with
  | openSymbol symbol file line =>
      have hend := beforeNumber_append
        (front ++ ['('] ++ textArgument symbol ++ ", ".toList ++ textArgument file
          ++ [',']) ' ' (by decide) line
      have hsplit : front ++ ['('] ++ argumentsOf (.openSymbol symbol file line)
          = front ++ ['('] ++ textArgument symbol ++ ", ".toList
              ++ textArgument file ++ [','] ++ [' '] ++ numberArgument line := by
        simp [argumentsOf, hcomma]
      rw [hsplit, hend]
      rfl
  | openFile file line =>
      have hend := beforeNumber_append
        (front ++ ['('] ++ textArgument file) ',' (by decide) line
      have hsplit : front ++ ['('] ++ argumentsOf (.openFile file line)
          = front ++ ['('] ++ textArgument file ++ [','] ++ numberArgument line := by
        simp [argumentsOf]
      rw [hsplit, hend]
      simp [textArgument, NavigationTarget.action]
  | openProjectFile file project line column =>
      have hend := beforeNumber_append
        (front ++ ['('] ++ textArgument file ++ [','] ++ projectArgument project
          ++ [','] ++ numberArgument line) ',' (by decide) column
      have hsplit : front ++ ['(']
            ++ argumentsOf (.openProjectFile file project line column)
          = front ++ ['('] ++ textArgument file ++ [',']
              ++ projectArgument project ++ [','] ++ numberArgument line ++ [',']
              ++ numberArgument column := by
        simp [argumentsOf]
      obtain ⟨d, digits, hnumber, hd⟩ := exists_reverse_number_eq_cons line
      rw [hsplit, hend, List.reverse_append, hnumber]
      simp [hd, NavigationTarget.action]

-- ======================================================== the fields

/-- A project is what its argument says: none is not one named `null`. -/
theorem project_eq_of_argument {project project' : Option String}
    (h : project.elim Argument.null (.text ·.toList)
      = project'.elim Argument.null (.text ·.toList)) : project = project' := by
  cases project with
  | none =>
      cases project' with
      | none => rfl
      | some name' => cases h
  | some name =>
      cases project' with
      | none => cases h
      | some name' =>
          have hname := Argument.text.inj h
          rw [String.toList_inj.1 hname]

/-- A target is what its fields say; how many there are tells the three
kinds apart. -/
theorem fields_injective : Function.Injective fields := by
  intro s t h
  have hlength := congrArg List.length h
  cases s with
  | openSymbol symbol file line =>
      cases t with
      | openSymbol symbol' file' line' =>
          simp only [fields, List.cons.injEq, Argument.text.injEq,
            Argument.number.injEq, String.toList_inj, UInt32.toNat_inj] at h
          rw [h.1, h.2.1, h.2.2.1]
      | openFile => simp [fields] at hlength
      | openProjectFile => simp [fields] at hlength
  | openFile file line =>
      cases t with
      | openSymbol => simp [fields] at hlength
      | openFile file' line' =>
          simp only [fields, List.cons.injEq, Argument.text.injEq,
            Argument.number.injEq, String.toList_inj, UInt32.toNat_inj] at h
          rw [h.1, h.2.1]
      | openProjectFile => simp [fields] at hlength
  | openProjectFile file project line column =>
      cases t with
      | openSymbol => simp [fields] at hlength
      | openFile => simp [fields] at hlength
      | openProjectFile file' project' line' column' =>
          simp only [fields, List.cons.injEq, Argument.text.injEq,
            Argument.number.injEq, String.toList_inj, UInt32.toNat_inj] at h
          rw [h.1, project_eq_of_argument h.2.1, h.2.2.1, h.2.2.2.1]

-- ============================================================ the law

/-- Payloads of one action with the same text have the same arguments,
and so were written for the same target. -/
theorem eq_of_payload_of_action {settings : AnchorSettings}
    {s t : NavigationTarget} (haction : s.action = t.action)
    (h : payload settings s = payload settings t) : s = t := by
  have hclose : ");".toList = [')', ';'] := by decide
  unfold payload at h
  rw [haction, List.append_assoc, List.append_assoc _ (argumentsOf t)] at h
  have harguments := List.append_cancel_left h
  have hs := readArguments?_argumentsOf s []
  have ht := readArguments?_argumentsOf t []
  rw [hclose] at harguments
  rw [harguments, ht] at hs
  injection hs with hs
  injection hs with hfields _
  exact fields_injective hfields.symm

/-- No two targets share a payload. -/
theorem payload_injective (settings : AnchorSettings) :
    Function.Injective (payload settings) := by
  intro s t h
  have haction := congrArg actionAtEnd? h
  rw [actionAtEnd?_payload, actionAtEnd?_payload] at haction
  injection haction with haction
  exact eq_of_payload_of_action haction h

/-- Settings that make the most of their freedom: a scheme that closes the
attribute, and one call for all actions that opens and closes arguments of
its own. -/
def hostileSettings : AnchorSettings :=
  ⟨"'(\"", "(\"x\",1);(", "(\"x\",1);(", "(\"x\",1);("⟩

/-- With such settings a missing project is still no project named `null`,
and a file whose name goes on like further arguments is no symbol. -/
theorem payload_hostileSettings :
    payload hostileSettings (.openProjectFile "a\\" none 1 1)
        ≠ payload hostileSettings (.openProjectFile "a\\" (some "null") 1 1)
      ∧ payload hostileSettings (.openFile "a\", \"b" 1)
        ≠ payload hostileSettings (.openSymbol "a" "b" 1) := by
  constructor
  · intro h
    have htarget := payload_injective hostileSettings h
    revert htarget
    decide
  · intro h
    have htarget := payload_injective hostileSettings h
    revert htarget
    decide

end ConsoleLinks.Anchor
