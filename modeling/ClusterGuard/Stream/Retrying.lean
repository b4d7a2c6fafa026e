import ClusterGuard.Retry.Basic
import ClusterGuard.Stream.Source

/-!
# Streams that subscribe again

Model of `RetryStream` with its `RetryState`: `poll_next` is `poll`, `attempts` and `is_terminated`
keep their names.

A retrying stream gets a fresh inner stream for every attempt. It passes values on as they come.
An error is not passed on while the retry allows another attempt: the inner stream is dropped and,
after the wait, the next one begins from its start. A final error or an end is terminal, and counts
the stream once.

Results:
* `poll_done`: a stream that is done only reports its end, and touches nothing.
-/

namespace ClusterGuard

/-- Where a retrying stream stands. -/
inductive Retrying.Stage (τ : Type) where
  | unsubscribed
  | streaming (inner : τ)
  | waiting (due : Instant)
  | done

/-- A retrying stream over inner streams `τ`. -/
structure Retrying (τ : Type) where
  /-- The inner stream of each attempt, counted from zero. -/
  subscribe : Nat → τ
  /-- How many inner streams were begun. -/
  attempts : Nat
  stage : Retrying.Stage τ

namespace Retrying

variable {w τ ε α : Type}

/-- A stream that has not subscribed yet. -/
def start (subscribe : Nat → τ) : Retrying τ := ⟨subscribe, 0, .unsubscribed⟩

/-- Whether the stream has delivered its error or its end. -/
def isTerminated (s : Retrying τ) : Bool :=
  match s.stage with
  | .done => true
  | _ => false

/-- When the wait of a stream is over, if it is waiting. -/
def wakesAt? (s : Retrying τ) : Option Instant :=
  match s.stage with
  | .waiting due => some due
  | _ => none

/-- The description of a retrying stream. -/
def text (s : Retrying τ) (r : Retry ε) : String :=
  recordText "RetryStream" [("retry", r.text), ("attempts", toString s.attempts)]

/-- Polls the inner stream of attempt number `attempts`, counted from one, and of the attempts that
follow it without a wait, `left` of them at most. -/
def follow (source : Source w τ ε α) (now : Instant) (subscribe : Nat → τ) :
    (left attempts : Nat) → τ → Retry ε → w → Signal ε α × Retrying τ × Retry ε × w
  | left, attempts, inner, r, s =>
    match source.poll inner s with
    | (.pending, inner, s) => (.pending, ⟨subscribe, attempts, .streaming inner⟩, r, s)
    | (.value a, inner, s) => (.value a, ⟨subscribe, attempts, .streaming inner⟩, r, s)
    | (.ended, inner, s) =>
      (.ended, ⟨subscribe, attempts, .done⟩, r.count true attempts, source.drop inner s)
    | (.failure e, inner, s) =>
      match r.verdict e attempts, left with
      | .wait d, left + 1 =>
        if d.isZero then
          follow source now subscribe left (attempts + 1) (subscribe attempts) r
            (source.drop inner s)
        else
          (.pending, ⟨subscribe, attempts, .waiting (deadline now d)⟩, r, source.drop inner s)
      | _, _ =>
        (.failure e, ⟨subscribe, attempts, .done⟩, r.count false attempts, source.drop inner s)

/-- Polls a retrying stream once (`poll_next`). -/
def poll (source : Source w τ ε α) (now : Instant) (s : Retrying τ) (r : Retry ε) (world : w) :
    Signal ε α × Retrying τ × Retry ε × w :=
  match s.stage with
  | .unsubscribed =>
    follow source now s.subscribe (r.left s.attempts) (s.attempts + 1) (s.subscribe s.attempts) r
      world
  | .streaming inner =>
    follow source now s.subscribe (r.left (s.attempts - 1)) s.attempts inner r world
  | .waiting due =>
    if now < due then (.pending, s, r, world)
    else
      follow source now s.subscribe (r.left s.attempts) (s.attempts + 1) (s.subscribe s.attempts) r
        world
  | .done => (.ended, s, r, world)

theorem poll_done (source : Source w τ ε α) (now : Instant) {s : Retrying τ}
    (h : s.stage = .done) (r : Retry ε) (world : w) :
    s.poll source now r world = (.ended, s, r, world) := by
  unfold poll
  rw [h]

/-- Drops a retrying stream, and its inner stream with it. -/
def drop (source : Source w τ ε α) (s : Retrying τ) (world : w) : w :=
  match s.stage with
  | .streaming inner => source.drop inner world
  | _ => world

/-- Retrying streams as a source whose surroundings hold the retry as well. -/
def source (inner : Source w τ ε α) (now : Instant) : Source (Retry ε × w) (Retrying τ) ε α where
  poll s world := s.poll inner now world.1 world.2
  drop s world := (world.1, s.drop inner world.2)

end Retrying

end ClusterGuard
