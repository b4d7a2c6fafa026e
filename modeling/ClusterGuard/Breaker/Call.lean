import ClusterGuard.Attempt
import ClusterGuard.Breaker.Basic

/-!
# Protected calls

Model of `CircuitBreaker`: `call`, and `execute` polled and dropped as `Held`. `CallError` is
`ResilienceError`.

A protected call asks the breaker for a permit, runs its operation only if it gets one, and tells
the breaker how the operation ended. A call may also be held: nothing happens until it is first
polled, and one that is abandoned gives its permit back without an outcome.
-/

namespace ClusterGuard

/-- Why a protected call has no value. -/
inductive CallError (ε : Type) where
  /-- The breaker did not let the call through. -/
  | rejected (rejection : Rejection)
  /-- The operation ran and failed. -/
  | failed (cause : ε)

/-- The text of a failed protected call. -/
def CallError.message {ε : Type} : CallError ε → String
  | rejected r => r.message
  | failed _ => "Operation failed"

namespace Breaker

variable {σ ε α : Type}

/-- The outcome a result counts as. -/
def Outcome.of : Except ε α → Outcome
  | .ok _ => .success
  | .error _ => .failure

/-- Runs an operation under the breaker (`call`). The operation may itself use the breaker. -/
def call (b : Breaker) (s : σ) (operation : Breaker → σ → Except ε α × Breaker × σ) :
    Except (CallError ε) α × Breaker × σ :=
  match b.request with
  | (.error rejection, b) => (.error (.rejected rejection), b, s)
  | (.ok permit, b) =>
    let (result, b, s) := operation b s
    (result.mapError .failed, b.finish permit (.of result), s)

/-- A protected call that has not ended. -/
inductive Held (σ ε α : Type) where
  | unstarted (operation : Attempt σ ε α)
  | admitted (permit : Permit) (operation : Attempt σ ε α)

namespace Held

/-- Polls an admitted operation once. -/
def proceed (permit : Permit) (operation : Attempt σ ε α) (b : Breaker) (s : σ) :
    Progress (Held σ ε α) (Except (CallError ε) α) × Breaker × σ :=
  match operation.waits with
  | waits + 1 => (.pending (.admitted permit { operation with waits }), b, s)
  | 0 =>
    let (result, s) := operation.run s
    (.ready (result.mapError .failed), b.finish permit (.of result), s)

/-- Polls a held call once (`execute`); the first poll asks for permission. -/
def poll (call : Held σ ε α) (b : Breaker) (s : σ) :
    Progress (Held σ ε α) (Except (CallError ε) α) × Breaker × σ :=
  match call with
  | admitted permit operation => proceed permit operation b s
  | unstarted operation =>
    match b.request with
    | (.error rejection, b) => (.ready (.error (.rejected rejection)), b, s)
    | (.ok permit, b) => proceed permit operation b s

/-- Gives up a held call. -/
def abandon (call : Held σ ε α) (b : Breaker) : Breaker :=
  match call with
  | unstarted _ => b
  | admitted permit _ => b.release permit

end Held

end Breaker

end ClusterGuard
