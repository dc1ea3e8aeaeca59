/-
Queues that grow while they are worked off: each step takes the item in
front and may put others behind the last one. Nothing comes of a queue that
never runs empty.
-/

namespace ConsoleLinks.Queue

/-- Works off a queue, and gives the state that is reached when it is
empty. -/
def drain {σ α : Type} (step : σ → α → σ × List α) (s : σ) (queue : List α) : Option σ :=
  match queue with
  | [] => some s
  | a :: rest => by
    -- the next round: with the same step, from where this one has come to
    apply drain
    · exact step
    · exact (step s a).1
    · exact rest ++ (step s a).2
partial_fixpoint

end ConsoleLinks.Queue
