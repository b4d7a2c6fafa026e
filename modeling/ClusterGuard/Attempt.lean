/-!
# Attempts and the work they belong to

Model of the closures and futures that breakers, retries and executors are given as work. `Progress`
is the answer to one poll.

An attempt is one run of a piece of work: it may stay pending for a while, then it changes the
state `σ` of its surroundings and succeeds or fails. Work is the sequence of its attempts; the
attempt made after `n` earlier ones is number `n`.
-/

namespace ClusterGuard

/-- What a run does: it changes the surroundings and succeeds or fails. -/
abbrev Act (σ ε α : Type) := σ → Except ε α × σ

/-- One run of a piece of work: pending for `waits` polls, then `run`. -/
structure Attempt (σ ε α : Type) where
  waits : Nat
  run : Act σ ε α

/-- A piece of work, as its attempts. -/
abbrev Work (σ ε α : Type) := Nat → Attempt σ ε α

namespace Attempt

variable {σ ε α : Type}

/-- An attempt that leaves the surroundings alone. -/
def of (waits : Nat) (result : Except ε α) : Attempt σ ε α := ⟨waits, fun s => (result, s)⟩

/-- The attempt with its error replaced. -/
def mapError {ε' : Type} (f : ε → ε') (a : Attempt σ ε α) : Attempt σ ε' α :=
  ⟨a.waits, fun s => ((a.run s).1.mapError f, (a.run s).2)⟩

end Attempt

/-- What one poll of unfinished work gives: what is left to poll, or the final value. -/
inductive Progress (τ α : Type) where
  | pending (rest : τ)
  | ready (value : α)

/-- The progress with its value replaced. -/
def Progress.map {τ α β : Type} (f : α → β) : Progress τ α → Progress τ β
  | pending rest => .pending rest
  | ready value => .ready (f value)

/-- Entry `n` of a script whose last entry repeats; `fallback` for an empty script. -/
def scripted {α : Type} (script : List α) (fallback : α) (n : Nat) : α :=
  script.getD (min n (script.length - 1)) fallback

end ClusterGuard
