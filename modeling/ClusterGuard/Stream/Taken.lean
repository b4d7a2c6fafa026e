import ClusterGuard.Stream.Drain

/-!
# The first items of a stream

A taken stream ends after a number of items, without polling the stream behind it again.
-/

namespace ClusterGuard

/-- The next `left` items of a stream. -/
structure Taken (τ : Type) where
  left : Nat
  inner : τ

namespace Taken

variable {w τ ε α : Type}

/-- Polls a taken stream once. -/
def poll (source : Source w τ ε α) (s : Taken τ) (world : w) : Signal ε α × Taken τ × w :=
  match s.left with
  | 0 => (.ended, s, world)
  | left + 1 =>
    match source.poll s.inner world with
    | (.value a, inner, world) => (.value a, ⟨left, inner⟩, world)
    | (.failure e, inner, world) => (.failure e, ⟨left, inner⟩, world)
    | (signal, inner, world) => (signal, ⟨left + 1, inner⟩, world)

/-- Taken streams as a source. -/
def source (inner : Source w τ ε α) : Source w (Taken τ) ε α where
  poll s world := s.poll inner world
  drop s world := inner.drop s.inner world

instance [Timed τ] : Timed (Taken τ) := ⟨fun s => Timed.wakesAt? s.inner⟩

end Taken

end ClusterGuard
