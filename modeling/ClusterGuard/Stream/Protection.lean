import ClusterGuard.Stream.Drain

/-!
# Ways to protect a stream

Model of the ways in which `RetryStream` and `CircuitBreakerStream` are put together.

A scripted stream can be retried, put behind a breaker, or both, in either order. Behind the breaker
as a whole, the retried stream asks for permission once; with the breaker inside, every subscription
asks again. In every order there is one breaker and one retry.
-/

namespace ClusterGuard

/-- How a stream is protected. -/
inductive Protection where
  | retry
  | breaker
  /-- A breaker around the retried stream. -/
  | breakerOutside
  /-- A breaker around every subscription of the retried stream. -/
  | breakerInside
deriving DecidableEq

namespace Protection

variable {σ ε α : Type}

/-- The states of protected streams. -/
def State (σ ε α : Type) : Protection → Type
  | retry => Retrying (Script σ ε α)
  | breaker => Gated (Script σ ε α)
  | breakerOutside => Gated (Retrying (Script σ ε α))
  | breakerInside => Retrying (Gated (Script σ ε α))

/-- A protected stream that has not been polled. -/
def start (subscriptions : Nat → Script σ ε α) : (p : Protection) → p.State σ ε α
  | retry => Retrying.start subscriptions
  | breaker => Gated.start (subscriptions 0)
  | breakerOutside => Gated.start (Retrying.start subscriptions)
  | breakerInside => Retrying.start fun n => Gated.start (subscriptions n)

/-- Protected streams as a source whose surroundings hold the breaker and the retry. -/
def source (refused : Rejection → ε) (now : Instant) :
    (p : Protection) → Source (Breaker × Retry ε × σ) (p.State σ ε α) ε α
  | retry => (Retrying.source (Script.source σ ε α) now).focus (·.2) fun w' w => (w.1, w')
  | breaker => (Gated.source (Script.source σ ε α) refused).focus
      (fun (b, _, s) => (b, s)) fun (b, s) (_, r, _) => (b, r, s)
  | breakerOutside => Gated.source (Retrying.source (Script.source σ ε α) now) refused
  | breakerInside => (Retrying.source (Gated.source (Script.source σ ε α) refused) now).focus
      (fun (b, r, s) => (r, b, s)) fun (r, b, s) _ => (b, r, s)

/-- When the wait of a protected stream is over, if it is waiting. -/
def wakesAt? : (p : Protection) → p.State σ ε α → Option Instant
  | retry, s => Retrying.wakesAt? s
  | breaker, _ => none
  | breakerOutside, s => Retrying.wakesAt? (Gated.inner s)
  | breakerInside, s => Retrying.wakesAt? s

instance (p : Protection) : Timed (p.State σ ε α) := ⟨p.wakesAt?⟩

/-- How many attempts the retry has made, if it is outermost. -/
def attempts? : (p : Protection) → p.State σ ε α → Option Nat
  | retry, s | breakerInside, s => some (Retrying.attempts s)
  | breaker, _ | breakerOutside, _ => none

/-- How many subscriptions were begun; a breaker alone begins its only one at once. -/
def subscribed : (p : Protection) → p.State σ ε α → Nat
  | retry, s | breakerInside, s => Retrying.attempts s
  | breaker, _ => 1
  | breakerOutside, s => (Gated.inner s).attempts

/-- Whether the outermost layer has delivered its last item. -/
def isTerminated : (p : Protection) → p.State σ ε α → Bool
  | retry, s | breakerInside, s => Retrying.isTerminated s
  | breaker, s | breakerOutside, s => Gated.isTerminated s

/-- The description of the outermost layer. -/
def text (b : Breaker) (r : Retry ε) : (p : Protection) → p.State σ ε α → String
  | retry, s | breakerInside, s => Retrying.text s r
  | breaker, s | breakerOutside, s => Gated.text s b

end Protection

end ClusterGuard
