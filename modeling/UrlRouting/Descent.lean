/-!
Machines that run as long as a measure falls: a machine is a step, and one function runs them all.
-/

namespace UrlRouting

/-- What a step gives: the next state, or the result. -/
inductive Step (σ α : Type) where
  | next (state : σ)
  | done (result : α)

/-- Repeats a step until it gives a result.  A step whose next state is no smaller than the state
before is refused as `stuck`. -/
def descend {σ α ε : Type} (size : σ → Nat) (stuck : ε) (step : σ → Except ε (Step σ α))
    (state : σ) : Except ε α :=
  match step state with
  | .error fault => .error fault
  | .ok (.done result) => .ok result
  | .ok (.next following) =>
      if size following < size state then descend size stuck step following else .error stuck
termination_by size state

end UrlRouting
