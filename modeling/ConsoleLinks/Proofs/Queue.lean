/-
What holds of a queue that grows while it is worked off.

Nothing is known beforehand of how long it takes, so there is no induction
on the queue: what is said here of its end is said of every approximation of
it (`drain.partial_correctness`), and comes down to what one step keeps.

# What is here

- an invariant of the state and the queue holds at the end, when the queue
  is empty (`drain_invariant`);
- two queues whose states stay related, and that are added the same to, end
  both or not at all, in related states (`drain_map_eq`);
- a queue that nothing is added to ends, after its own items (`drain_of_still`).

Consumed by the run that reads the log it writes (`Proofs/Command/OwnLog.lean`).
-/
import ConsoleLinks.Queue

namespace ConsoleLinks.Queue

variable {σ τ α : Type} {step : σ → α → σ × List α} {step' : τ → α → τ × List α}

theorem drain_nil (s : σ) : drain step s [] = some s := by
  rw [drain]

theorem drain_cons (s : σ) (a : α) (rest : List α) :
    drain step s (a :: rest) = drain step (step s a).1 (rest ++ (step s a).2) := by
  rw [drain]

-- ============================================================= invariants

/-- What every step keeps holds at the end. -/
theorem drain_invariant {I : σ → List α → Prop}
    (hstep : ∀ s a rest, I s (a :: rest) → I (step s a).1 (rest ++ (step s a).2))
    {s last : σ} {queue : List α} (hinit : I s queue)
    (h : drain step s queue = some last) : I last [] := by
  refine drain.partial_correctness step (fun s queue last => I s queue → I last []) ?_
    s queue last h hinit
  intro approx ih s queue last h hinit
  cases queue with
  | nil =>
      injection h with h
      rw [← h]
      exact hinit
  | cons a rest => exact ih _ _ _ h (hstep s a rest hinit)

-- ============================================================= simulation

/-- If one queue ends, so does another that is added the same to, in a
related state. -/
theorem exists_drain_eq_some {R : σ → τ → Prop}
    (hstep : ∀ s t a, R s t →
      R (step s a).1 (step' t a).1 ∧ (step s a).2 = (step' t a).2)
    {s last : σ} {t : τ} {queue : List α} (hinit : R s t)
    (h : drain step s queue = some last) :
    ∃ last', drain step' t queue = some last' ∧ R last last' := by
  refine drain.partial_correctness step
    (fun s queue last => ∀ t, R s t → ∃ last', drain step' t queue = some last' ∧ R last last')
    ?_ s queue last h t hinit
  intro approx ih s queue last h t hinit
  cases queue with
  | nil =>
      injection h with h
      rw [← h]
      exact ⟨t, drain_nil t, hinit⟩
  | cons a rest =>
      obtain ⟨hnext, hadded⟩ := hstep s t a hinit
      rw [drain_cons, ← hadded]
      exact ih _ _ _ h _ hnext

/-- Two queues that are added the same to come to the same, as far as their
related states tell. -/
theorem drain_map_eq {β : Type} {R : σ → τ → Prop} {f : σ → β} {g : τ → β}
    (hstep : ∀ s t a, R s t →
      R (step s a).1 (step' t a).1 ∧ (step s a).2 = (step' t a).2)
    (hend : ∀ s t, R s t → f s = g t) {s : σ} {t : τ} (hinit : R s t) (queue : List α) :
    (drain step s queue).map f = (drain step' t queue).map g := by
  cases hs : drain step s queue with
  | some last =>
      obtain ⟨last', ht, hlast⟩ := exists_drain_eq_some hstep hinit hs
      rw [ht]
      exact congrArg some (hend last last' hlast)
  | none =>
      cases ht : drain step' t queue with
      | none => rfl
      | some last' =>
          -- the second queue cannot end without the first
          obtain ⟨last, hs', -⟩ := exists_drain_eq_some (R := fun t s => R s t)
            (fun t s a h => ⟨(hstep s t a h).1, (hstep s t a h).2.symm⟩) hinit ht
          rw [hs] at hs'
          cases hs'

-- ================================================================== stillness

/-- A queue that nothing is added to ends. -/
theorem drain_of_still {P : σ → Prop}
    (hstep : ∀ s a, P s → P (step s a).1 ∧ (step s a).2 = []) {s : σ} (hinit : P s)
    (queue : List α) :
    drain step s queue = some (queue.foldl (fun s a => (step s a).1) s) := by
  induction queue generalizing s with
  | nil => exact drain_nil s
  | cons a rest ih =>
      obtain ⟨hnext, hadded⟩ := hstep s a hinit
      rw [drain_cons, hadded, List.append_nil, ih hnext]
      rfl

end ConsoleLinks.Queue
