import ClusterGuard.Breaker.Config

/-!
# Backoff

Model of `BackoffStrategy` (`calculate_delay` is `Strategy.delay?`), `Jitter` (`apply` is `scaled?`)
and `Backoff` (`delay_for` is `delay?`).

How long to wait before a failed piece of work is tried again. Retry `0` is the wait before the
second attempt. An exponential strategy waits `initial · multiplier ^ retry`, computed in 64-bit
floating-point seconds, and never longer than its cap. Full jitter scales a wait by a factor that
is drawn from zero to one.

A floating-point number of seconds need not be a duration; `delay?` and `scaled?` are absent then.
This is where the program stops: nothing is waited for any more. `delay` stands in for it with the
wait as it was before it was scaled, so of a call that comes there nothing is told by it.
-/

namespace ClusterGuard

/-- The largest exponent a multiplier is raised to. -/
def maxExponent : Nat := 1 <<< 31 - 1

/-- The wait before each retry, before jitter. -/
inductive Strategy where
  | fixed (delay : Duration)
  | exponential (initial : Duration) (multiplier : Binary .double) (cap : Duration)
deriving DecidableEq

/-- Whether waits are scaled by a random factor. -/
inductive Jitter where
  | none
  | full
deriving DecidableEq

namespace Strategy

/-- The number of seconds of an exponential wait, before the cap. -/
def rawSeconds (initial : Duration) (multiplier : Binary .double) (retry : Nat) : Binary .double :=
  initial.toSeconds.mul (multiplier.pow (min retry maxExponent))

/-- The wait before a retry (`calculate_delay`), where the number of seconds is a duration. -/
def delay? : Strategy → Nat → Option Duration
  | fixed delay, _ => some delay
  | exponential initial multiplier cap, retry =>
    let raw := rawSeconds initial multiplier retry
    if !raw.isFinite || cap.toSeconds.le raw then some cap
    else if raw.lt (.zero false) then some .zero
    else Duration.ofSeconds? raw

/-- The longest wait of the strategy. -/
def cap : Strategy → Duration
  | fixed delay => delay
  | exponential _ _ cap => cap

/-- The wait before a retry. -/
def delay (s : Strategy) (retry : Nat) : Duration := (s.delay? retry).getD s.cap

/-- The description of a strategy. -/
def text : Strategy → String
  | fixed delay => taggedText "Fixed" delay.text
  | exponential initial multiplier cap => recordText "Exponential" [
      ("initial_delay", initial.text), ("multiplier", multiplier.text descriptionNumber),
      ("max_delay", cap.text)]

end Strategy

namespace Jitter

/-- A wait scaled by the drawn factor (`apply`), where the result is a duration. No wait stays no
wait. -/
def scaled? (j : Jitter) (factor : Binary .double) (d : Duration) : Option Duration :=
  match j with
  | none => some d
  | full => if d.isZero then some d else Duration.ofSeconds? (factor.mul d.toSeconds)

/-- The description of a kind of jitter. -/
def text : Jitter → String
  | none => "None"
  | full => "Full"

end Jitter

/-- How long to wait before each retry. -/
structure Backoff where
  strategy : Strategy := .fixed (.ofMillis 50)
  jitter : Jitter := .none
deriving DecidableEq

namespace Backoff

/-- The same wait before every retry. -/
def fixed (delay : Duration) : Backoff := ⟨.fixed delay, .none⟩

/-- No wait at all. -/
def none : Backoff := fixed .zero

/-- The wait before a retry when jitter draws `factor` (`delay_for`), where it is a duration. -/
def delay? (b : Backoff) (factor : Binary .double) (retry : Nat) : Option Duration :=
  (b.strategy.delay? retry).bind (b.jitter.scaled? factor)

/-- The wait before a retry when jitter draws `factor`, where it is a duration. Where it is none
this is the wait of the strategy, which stands for the end of the program. -/
def delay (b : Backoff) (factor : Binary .double) (retry : Nat) : Duration :=
  (b.delay? factor retry).getD (b.strategy.delay retry)

/-- The description of a backoff. -/
def text (b : Backoff) : String :=
  recordText "Backoff" [("strategy", b.strategy.text), ("jitter", b.jitter.text)]

theorem delay_of_no_jitter {b : Backoff} (h : b.jitter = .none) (factor : Binary .double)
    (retry : Nat) : b.delay factor retry = b.strategy.delay retry := by
  unfold delay delay? Strategy.delay
  rw [h]
  cases b.strategy.delay? retry <;> rfl

end Backoff

end ClusterGuard
