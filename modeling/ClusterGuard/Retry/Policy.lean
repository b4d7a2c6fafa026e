import ClusterGuard.Time.Duration

/-!
# Retry policies

Model of `RetryPolicy` with `RetryDecision`: `AlwaysRetry`, `NeverRetry`, `RetryOnRetryable`
(`transient`) and policies made of a predicate (`whenever`).

A policy looks at the error of a failed attempt, and at how many attempts were made before it, and
decides whether another attempt is worth making.
-/

namespace ClusterGuard.Retry

/-- What to do about a failed attempt. -/
inductive Decision where
  /-- Try again after the usual wait. -/
  | retry
  /-- Try again after this wait instead. -/
  | retryAfter (wait : Duration)
  | stop
deriving DecidableEq

/-- Decides about the error of the attempt with the given number, counted from zero. -/
abbrev Policy (ε : Type) := ε → Nat → Decision

namespace Policy

variable {ε : Type}

/-- Every error is worth another attempt. -/
def always : Policy ε := fun _ _ => .retry

/-- No error is worth another attempt. -/
def never : Policy ε := fun _ _ => .stop

/-- Another attempt where the predicate holds. -/
def whenever (worthwhile : ε → Nat → Bool) : Policy ε :=
  fun e n => if worthwhile e n then .retry else .stop

/-- Another attempt for errors that may go away by themselves. -/
def transient (retryable : ε → Bool) : Policy ε := whenever fun e _ => retryable e

/-- The first `attempts` failures are each followed by the same wait, whatever the backoff. -/
def after (wait : Duration) (attempts : Nat) : Policy ε :=
  fun _ n => if n < attempts then .retryAfter wait else .stop

end Policy

end ClusterGuard.Retry
