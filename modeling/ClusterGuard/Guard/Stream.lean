import ClusterGuard.Guard.Basic
import ClusterGuard.Stream.Drain

/-!
# Guarded streams

Model of `ProtectedExecutor`: `run_stream`.

A guarded stream asks for permission when it is first polled, and subscribes again after a missing
reply as long as the retry allows it.
-/

namespace ClusterGuard.Guard

variable {σ α : Type}

/-- A guarded stream over scripted subscriptions. -/
abbrev Stream (σ α : Type) := Gated (Retrying (Script σ Fault α))

/-- A guarded stream that has not been polled (`run_stream`). -/
def stream (subscriptions : Nat → Script σ Cause α) : Stream σ α :=
  .start (.start fun n => (subscriptions n).mapError .ofCause)

/-- How many subscriptions a guarded stream has begun. -/
def Stream.attempts (s : Stream σ α) : Nat := s.inner.attempts

/-- Guarded streams over any inner streams, as a source whose surroundings hold the guard. -/
def sourceOf {τ : Type} (inner : Source σ τ Fault α) (now : Instant) :
    Source (Guard × σ) (Gated (Retrying τ)) Fault α :=
  (Gated.source (Retrying.source inner now) .circuitOpen).focus
    (fun (g, s) => (g.breaker, g.retry, s)) (fun (breaker, retry, s) _ => (⟨breaker, retry⟩, s))

/-- Guarded streams over scripts. -/
def source (now : Instant) : Source (Guard × σ) (Stream σ α) Fault α :=
  sourceOf (Script.source σ Fault α) now

end ClusterGuard.Guard
