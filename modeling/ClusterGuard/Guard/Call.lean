import ClusterGuard.Guard.Basic
import ClusterGuard.Retry.Task

/-!
# Guarded calls, one poll at a time

Model of `ProtectedExecutor`: `run_async`, polled and dropped.

A held call does nothing before it is first polled; then it asks for permission, and from there on
it is retried work. A call that is given up releases its permit without an outcome.
-/

namespace ClusterGuard.Guard

variable {σ α : Type}

/-- A guarded call that has not ended. -/
inductive Call (σ α : Type) where
  | unstarted (work : Work σ Cause α)
  | admitted (permit : Breaker.Permit) (task : Retry.Task σ Fault α)

namespace Call

/-- How many attempts were begun. -/
def attempts : Call σ α → Nat
  | unstarted _ => 0
  | admitted _ task => task.attempts

/-- Polls the work of an admitted call. -/
def proceed (permit : Breaker.Permit) (task : Retry.Task σ Fault α) (g : Guard) (now : Instant)
    (s : σ) : Progress (Call σ α) (Answer α) × Guard × σ :=
  match task.poll g.retry now s with
  | (.pending task, retry, s) => (.pending (.admitted permit task), { g with retry }, s)
  | (.ready ending, retry, s) =>
    (.ready ⟨ending.result, ending.attempts⟩,
      ⟨g.breaker.finish permit (.of ending.result), retry⟩, s)

/-- Polls a held call once (`run_async`); the first poll asks for permission. -/
def poll (call : Call σ α) (g : Guard) (now : Instant) (s : σ) :
    Progress (Call σ α) (Answer α) × Guard × σ :=
  match call with
  | admitted permit task => proceed permit task g now s
  | unstarted work =>
    match g.breaker.request with
    | (.error rejection, breaker) =>
      (.ready ⟨.error (.circuitOpen rejection), 0⟩, { g with breaker }, s)
    | (.ok permit, breaker) =>
      proceed permit (.start fun n => (work n).mapError .ofCause) { g with breaker } now s

/-- Gives up a held call. -/
def abandon (call : Call σ α) (g : Guard) : Guard :=
  match call with
  | unstarted _ => g
  | admitted permit _ => { g with breaker := g.breaker.release permit }

end Call

end ClusterGuard.Guard
