import ClusterGuard.Retry.Basic

/-!
# Retried work, one poll at a time

Model of `Retry`: `execute_with_outcome`, polled.

A task is a retried call that has been set up but not ended. Nothing happens until it is first
polled. Each poll runs as far as it can: until an attempt stays pending, until a wait begins, or to
the end. A wait of zero does not end the poll.
-/

namespace ClusterGuard.Retry

variable {σ ε α : Type}

/-- Where an unfinished task stands. -/
inductive Task.Stage (σ ε α : Type) where
  | unstarted
  | attempting (attempt : Attempt σ ε α)
  /-- Waiting until the given instant, for a wait of the given length. -/
  | waiting (due : Instant) (wait : Duration)

/-- A retried call that has not ended. -/
structure Task (σ ε α : Type) where
  work : Work σ ε α
  /-- How many attempts were begun. -/
  attempts : Nat
  /-- The sum of the waits that are over. -/
  waited : Duration
  stage : Task.Stage σ ε α

namespace Task

/-- A call that has not begun. -/
def start (work : Work σ ε α) : Task σ ε α := ⟨work, 0, .zero, .unstarted⟩

/-- When the wait of a task is over, if it is waiting. -/
def wakesAt? (t : Task σ ε α) : Option Instant :=
  match t.stage with
  | .waiting due _ => some due
  | _ => none

/-- Polls attempt number `made`, and the attempts that follow it without a wait, `left` of them
at most. -/
def advance (r : Retry ε) (now : Instant) (work : Work σ ε α) :
    (left made : Nat) → Duration → Attempt σ ε α → σ →
      Progress (Task σ ε α) (Ending ε α) × σ
  | left, made, waited, attempt, s =>
    match attempt.waits with
    | waits + 1 => (.pending ⟨work, made + 1, waited, .attempting { attempt with waits }⟩, s)
    | 0 =>
      match attempt.run s with
      | (.ok value, s) => (.ready ⟨.ok value, made + 1, waited⟩, s)
      | (.error error, s) =>
        match r.verdict error (made + 1), left with
        | .wait d, left + 1 =>
          if d.isZero then advance r now work left (made + 1) waited (work (made + 1)) s
          else (.pending ⟨work, made + 1, waited, .waiting (deadline now d) d⟩, s)
        | _, _ => (.ready ⟨.error error, made + 1, waited⟩, s)

/-- Polls a task without counting its end. -/
def step (r : Retry ε) (now : Instant) (t : Task σ ε α) (s : σ) :
    Progress (Task σ ε α) (Ending ε α) × σ :=
  match t.stage with
  | .unstarted => advance r now t.work (r.left 0) 0 t.waited (t.work 0) s
  | .attempting attempt =>
    advance r now t.work (r.left (t.attempts - 1)) (t.attempts - 1) t.waited attempt s
  | .waiting due wait =>
    if now < due then (.pending t, s)
    else
      advance r now t.work (r.left t.attempts) t.attempts (t.waited + wait) (t.work t.attempts) s

/-- Polls a task once (`execute_with_outcome`); a call that ends is counted. -/
def poll (r : Retry ε) (now : Instant) (t : Task σ ε α) (s : σ) :
    Progress (Task σ ε α) (Ending ε α) × Retry ε × σ :=
  match t.step r now s with
  | (.pending t, s) => (.pending t, r, s)
  | (.ready ending, s) => (.ready ending, r.count (succeeded ending.result) ending.attempts, s)

end Task

end ClusterGuard.Retry
