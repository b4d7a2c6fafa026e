import ClusterGuard.Stream.Gated
import ClusterGuard.Stream.Retrying

/-!
# Running a stream to its end

`drain` polls a stream until it ends or a number of polls is used up. Where the stream waits for a
timer, time moves on to that timer. `pollBound` is a number of polls that suffices for a retrying
stream over scripts of a bounded length.
-/

namespace ClusterGuard

variable {w τ ε α : Type}

/-- Streams that may wait for a timer. -/
class Timed (τ : Type) where
  /-- When the wait of a stream is over, if it is waiting. -/
  wakesAt? : τ → Option Instant

instance {σ : Type} : Timed (Script σ ε α) := ⟨fun _ => none⟩

instance : Timed (Retrying τ) := ⟨Retrying.wakesAt?⟩

instance [Timed τ] : Timed (Gated τ) := ⟨fun s => Timed.wakesAt? s.inner⟩

/-- The instant at which a stream that is not ready is worth polling again. -/
def nextPoll [Timed τ] (now : Instant) (s : τ) : Instant :=
  match Timed.wakesAt? s with
  | some due => moveTo due now
  | none => now

/-- Polls a stream to its end, at most `polls` times: the results in order, the time, the stream
and the surroundings afterwards. -/
def drain [Timed τ] (source : Instant → Source w τ ε α) :
    (polls : Nat) → Instant → τ → w → List (Except ε α) × Instant × τ × w
  | 0, now, s, world => ([], now, s, world)
  | polls + 1, now, s, world =>
    match (source now).poll s world with
    | (.ended, s, world) => ([], now, s, world)
    | (.pending, s, world) => drain source polls (nextPoll now s) s world
    | (.value a, s, world) =>
      let (results, rest) := drain source polls now s world
      (.ok a :: results, rest)
    | (.failure e, s, world) =>
      let (results, rest) := drain source polls now s world
      (.error e :: results, rest)

/-- Enough polls for `attempts` attempts over scripts of at most `longest` items. -/
def pollBound (attempts longest : Nat) : Nat := (attempts + 1) * (longest + 3)

end ClusterGuard
