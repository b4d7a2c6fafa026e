import ClusterGuard.Breaker.Basic
import ClusterGuard.Stream.Source

/-!
# Streams behind a circuit breaker

Model of `CircuitBreakerStream` with its `Gate`: `poll_next` is `poll`, `is_terminated` is
`isTerminated`.

A gated stream asks the breaker for a permit when it is first polled. A rejection is its only item.
Once admitted it passes the inner stream on up to the first error or the end, and gives the breaker
the one outcome that belongs to it. A stream dropped earlier only releases its permit.
-/

namespace ClusterGuard

/-- Whether a stream has been let through. -/
inductive Gate where
  | pending
  | admitted (permit : Breaker.Permit)
  | done
deriving DecidableEq

/-- The gate in descriptions of values. -/
def Gate.label : Gate → String
  | pending => "pending"
  | admitted _ => "admitted"
  | done => "done"

/-- An inner stream behind a gate. -/
structure Gated (τ : Type) where
  gate : Gate
  inner : τ

namespace Gated

variable {w τ ε α : Type}

/-- A stream that has not asked for permission yet. -/
def start (inner : τ) : Gated τ := ⟨.pending, inner⟩

/-- Whether the stream has delivered its rejection, its error or its end. -/
def isTerminated (s : Gated τ) : Bool := s.gate == .done

/-- The description of a gated stream. -/
def text (s : Gated τ) (b : Breaker) : String :=
  recordText "CircuitBreakerStream" [("breaker", quoted b.name), ("gate", quoted s.gate.label)]

/-- Polls the inner stream of an admitted stream. -/
def pass (source : Source w τ ε α) (permit : Breaker.Permit) (inner : τ) (b : Breaker)
    (world : w) : Signal ε α × Gated τ × Breaker × w :=
  match source.poll inner world with
  | (.pending, inner, world) => (.pending, ⟨.admitted permit, inner⟩, b, world)
  | (.value a, inner, world) => (.value a, ⟨.admitted permit, inner⟩, b, world)
  | (.failure e, inner, world) => (.failure e, ⟨.done, inner⟩, b.finish permit .failure, world)
  | (.ended, inner, world) => (.ended, ⟨.done, inner⟩, b.finish permit .success, world)

/-- Polls a gated stream once (`poll_next`). -/
def poll (source : Source w τ ε α) (refused : Rejection → ε) (s : Gated τ) (b : Breaker)
    (world : w) : Signal ε α × Gated τ × Breaker × w :=
  match s.gate with
  | .done => (.ended, s, b, world)
  | .admitted permit => pass source permit s.inner b world
  | .pending =>
    match b.request with
    | (.error rejection, b) => (.failure (refused rejection), ⟨.done, s.inner⟩, b, world)
    | (.ok permit, b) => pass source permit s.inner b world

/-- Drops a gated stream: its permit is released, its inner stream dropped. -/
def drop (source : Source w τ ε α) (s : Gated τ) (b : Breaker) (world : w) : Breaker × w :=
  let world := source.drop s.inner world
  match s.gate with
  | .admitted permit => (b.release permit, world)
  | _ => (b, world)

/-- Gated streams as a source whose surroundings hold the breaker as well. -/
def source (inner : Source w τ ε α) (refused : Rejection → ε) :
    Source (Breaker × w) (Gated τ) ε α where
  poll s world := s.poll inner refused world.1 world.2
  drop s world := s.drop inner world.1 world.2

end Gated

end ClusterGuard
