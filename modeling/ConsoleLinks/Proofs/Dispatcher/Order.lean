/-
The order law: for the customizers of the two ecosystems, the order of
registration and the lines before matter to compiler diagnostics alone
(`order_matters_only_to_diagnostics`).

A line that both grammars recognize is a diagnostic to the .NET one
(`Shape.kind_of_detect_of_detect`), so every other line is undisputed, and
undisputed lines come to the same in any order and after any history
(`Undisputed.lean`).
-/
import ConsoleLinks.Proofs.Dispatcher.Undisputed
import ConsoleLinks.Proofs.Line.Ambiguity

namespace ConsoleLinks

namespace Ecosystem

/-- The dispatcher over ecosystems, asked in the given order. -/
def dispatcher (settings : AnchorSettings) (order : List Ecosystem) : Dispatcher :=
  .ofCustomizers (order.map (customizer settings))

/-- A body that is no diagnostic has one customizer at most. -/
theorem undisputed_of_kind_ne {settings : AnchorSettings} {order : List Ecosystem}
    {body : String}
    (h : (csharp.detect body).map LineMatch.kind ≠ some .compilerDiagnostic) :
    Undisputed (dispatcher settings order).customizers body := by
  -- the two ecosystems never both claim the body
  have hboth {mj mc : LineMatch} (hj : java.detect body = some mj)
      (hc : csharp.detect body = some mc) : False := by
    refine h ?_
    rw [hc, Option.map_some, Shape.kind_of_detect_of_detect hj hc]
  have hdetect {e : Ecosystem} {done : Customized}
      (hdone : (e.customizer settings).attempt body = some done) :
      ∃ m, e.detect body = some m := by
    obtain ⟨m, hm, -⟩ := Option.bind_eq_some_iff.1 hdone
    exact ⟨m, hm⟩
  intro c hc c' hc' done done' hdone hdone'
  obtain ⟨e, -, rfl⟩ := List.mem_map.1 hc
  obtain ⟨e', -, rfl⟩ := List.mem_map.1 hc'
  obtain ⟨m, hm⟩ := hdetect hdone
  obtain ⟨m', hm'⟩ := hdetect hdone'
  have heq : e = e' := by
    cases e with
    | java =>
        cases e' with
        | java => rfl
        | csharp => exact (hboth hm hm').elim
    | csharp =>
        cases e' with
        | java => exact (hboth hm' hm).elim
        | csharp => rfl
  subst heq
  rw [hdone] at hdone'
  exact ⟨rfl, Option.some.inj hdone'⟩

/-- Lines without a diagnostic come to what each of them comes to alone,
in whatever state and order. -/
theorem processLines_eq_map {settings : AnchorSettings} {order order' : List Ecosystem}
    (hsame : ∀ e, e ∈ order ↔ e ∈ order') (calls : List Call) {lines : List String}
    (h : ∀ line ∈ lines,
      (csharp.detect (bodyOf line)).map LineMatch.kind ≠ some .compilerDiagnostic) :
    (((dispatcher settings order).run calls).1.processLines lines).2
      = lines.map fun line => ((dispatcher settings order').processLine line).2 := by
  have hrun := Dispatcher.customizers_run (dispatcher settings order) calls
  refine Dispatcher.processLines_of_undisputed (fun c => ?_) fun line hmem => ?_
  · rw [hrun]
    simp only [dispatcher, Dispatcher.ofCustomizers, List.mem_map, hsame]
  · rw [hrun]
    exact undisputed_of_kind_ne (h line hmem)

/-- The order law. Over lines without a diagnostic, the dispatchers that
ask the two ecosystems in either order, each after any calls, report the
same for every line and follow the same customizer after it; and what they
report is what a dispatcher at the start of a stream reports for the line
alone. -/
theorem order_matters_only_to_diagnostics (settings : AnchorSettings)
    (calls calls' : List Call) (lines : List String)
    (h : ∀ line ∈ lines,
      (csharp.detect (bodyOf line)).map LineMatch.kind ≠ some .compilerDiagnostic) :
    let d := ((dispatcher settings [java, csharp]).run calls).1
    let d' := ((dispatcher settings [csharp, java]).run calls').1
    (d.processLines lines).2 = (d'.processLines lines).2
      ∧ (∀ front, front <+: lines → front ≠ [] →
          (d.processLines front).1.active? = (d'.processLines front).1.active?)
      ∧ (d.processLines lines).2
          = lines.map (fun line =>
              ((dispatcher settings [java, csharp]).processLine line).2)
      ∧ (d'.processLines lines).2
          = lines.map (fun line =>
              ((dispatcher settings [csharp, java]).processLine line).2) := by
  intro d d'
  have hswap : ∀ e, e ∈ [csharp, java] ↔ e ∈ [java, csharp] := by
    intro e
    cases e <;> decide
  have hreports (front : List String) (hfront : front <+: lines) :
      (d.processLines front).2 = (d'.processLines front).2 := by
    have h' := fun line hmem => h line (hfront.subset hmem)
    exact (processLines_eq_map (fun e => Iff.rfl) calls h').trans
      (processLines_eq_map hswap calls' h').symm
  refine ⟨hreports lines (List.prefix_refl lines), fun front hfront hne => ?_,
    processLines_eq_map (fun e => Iff.rfl) calls h,
    processLines_eq_map (fun e => Iff.rfl) calls' h⟩
  rw [Dispatcher.active?_processLines d hne, Dispatcher.active?_processLines d' hne,
    hreports front hfront]

/-- A stream in which traces of the two ecosystems and other output meet,
read by one dispatcher that follows a diagnostic and by one that follows a
Java trace. -/
theorem order_matters_only_to_diagnostics_mixed :
    let lines := ["java.io.IOException: gone\r", "\tat a.B.c(D.java:3)\r", "\t... 2 more",
      "Unhandled exception. N.E: gone", "   at N.M(String s) in /f.cs:line 4", "other"]
    let d := ((dispatcher {} [java, csharp]).run
      [.processLine "a.cs(1,2): error CS1: gone"]).1
    let d' := ((dispatcher {} [csharp, java]).run [.process "\tat a.B.c(D.java:3)"]).1
    (∀ line ∈ lines,
        (csharp.detect (bodyOf line)).map LineMatch.kind ≠ some .compilerDiagnostic)
      ∧ d.active? = some "csharp" ∧ d'.active? = some "java"
      ∧ (d.processLines lines).2 = (d'.processLines lines).2
      ∧ (d.processLines (lines.take 1)).1.active?
          = (d'.processLines (lines.take 1)).1.active? := by
  intro lines d d'
  have hlines : ∀ line ∈ lines,
      (csharp.detect (bodyOf line)).map LineMatch.kind ≠ some .compilerDiagnostic := by
    decide +kernel
  obtain ⟨hreports, hactive, -, -⟩ := order_matters_only_to_diagnostics {}
    [.processLine "a.cs(1,2): error CS1: gone"] [.process "\tat a.B.c(D.java:3)"] lines
    hlines
  exact ⟨hlines, by decide +kernel, by decide +kernel, hreports,
    hactive _ (List.take_prefix 1 lines) (by decide)⟩

end Ecosystem

end ConsoleLinks
