import ClusterGuard.Breaker.Call
import ClusterGuard.Fault
import ClusterGuard.Retry.Basic

/-!
# Guards

Model of `ProtectedExecutor`: `run` is `run_blocking`, `policy` is `RetryOnRetryable`.

A guard is a circuit breaker around a retry. However many attempts a call takes, the breaker is
asked once and hears of one outcome. The errors of the work become faults before the retry looks
at them, and only missing replies are tried again.

Results:
* `run_of_rejected`: work that is not let through is not begun, and no call is counted.
-/

namespace ClusterGuard

/-- A circuit breaker around a retry. -/
structure Guard where
  breaker : Breaker
  retry : Retry Fault

namespace Guard

/-- How a guarded call ended. -/
structure Answer (α : Type) where
  result : Except Fault α
  /-- How many attempts were made; none for a call that was not let through. -/
  attempts : Nat

/-- The policy of every guard: only missing replies are tried again. -/
def policy : Retry.Policy Fault := .transient Fault.isRetryable

/-- A new guard with valid configurations, its parts named after it. -/
def create (name : String) (breaker : Breaker.Config) (retry : Retry.Config)
    (draw : Nat → Binary .double) : Except ConfigError Guard := do
  let breaker ← Breaker.create (name ++ "-breaker") breaker
  let retry ← Retry.create (name ++ "-retry") retry policy draw
  return ⟨breaker, retry⟩

variable {σ α : Type}

/-- Work whose errors are reported as faults. -/
def reported (work : Nat → σ → Except Cause α × σ) (n : Nat) (s : σ) : Except Fault α × σ :=
  ((work n s).1.mapError Fault.ofCause, (work n s).2)

/-- Runs work to its end (`run_blocking`). `pause` is what a wait between attempts does to the
surroundings. -/
def run (g : Guard) (work : Nat → σ → Except Cause α × σ) (pause : Duration → σ → σ) (s : σ) :
    Answer α × Guard × σ :=
  match g.breaker.request with
  | (.error rejection, breaker) =>
    (⟨.error (.circuitOpen rejection), 0⟩, { g with breaker }, s)
  | (.ok permit, breaker) =>
    let (ending, retry, s) := g.retry.run (reported work) pause s
    (⟨ending.result, ending.attempts⟩,
      ⟨breaker.finish permit (.of ending.result), retry⟩, s)

theorem run_of_rejected {g : Guard} {rejection : Rejection} {breaker : Breaker}
    (h : g.breaker.request = (.error rejection, breaker))
    (work : Nat → σ → Except Cause α × σ) (pause : Duration → σ → σ) (s : σ) :
    g.run work pause s = (⟨.error (.circuitOpen rejection), 0⟩, { g with breaker }, s) := by
  unfold run
  rw [h]

/-- Records an outcome that does not belong to any call. -/
def record (g : Guard) (o : Breaker.Outcome) : Guard := { g with breaker := g.breaker.record o }

/-- Closes the circuit. -/
def reset (g : Guard) : Guard := { g with breaker := g.breaker.reset }

end Guard

end ClusterGuard
