import ClusterGuard.Time.Duration

/-!
# Timers

Model of the timers that `execute_with_outcome` and `RetryStream` wait for, on a clock that moves on
only when somebody waits.

Timers fire on whole milliseconds: a wait of `d` begun at `t` is over at `t + d` rounded up to the
next whole millisecond. No timer waits longer than thirty years: a longer wait is cut down to that,
even where its end is an instant that there is.

Results:
* `le_deadline`: within thirty years no timer fires early.
-/

namespace ClusterGuard

/-- The first whole millisecond not before `t`. -/
def roundUpToMillis (t : Instant) : Instant := .saturating ((t.nanos + 999999) / 1000000 * 1000000)

/-- The longest wait of a timer: thirty years of 365 days. -/
def longestWait : Duration := .ofSeconds (30 * 365 * 86400)

/-- The instant at which a wait of `d` begun at `t` is over. -/
def deadline (t : Instant) (d : Duration) : Instant :=
  roundUpToMillis (t + if d ≤ longestWait then d else longestWait)

/-- Where a clock that shows `now` stands once it was moved on to `due`. -/
def moveTo (due now : Instant) : Instant := if now ≤ due then due else now

/-- Where a clock that shows `now` stands after a wait of `d`. -/
def sleep (d : Duration) (now : Instant) : Instant := moveTo (deadline now d) now

theorem le_roundUpToMillis (t : Instant) : t ≤ roundUpToMillis t := by
  have h := t.le_max
  simp only [Duration.le_iff, roundUpToMillis, Duration.saturating]
  omega

/-- Within thirty years no timer fires early. -/
theorem le_deadline {d : Duration} (h : d ≤ longestWait) (t : Instant) : t + d ≤ deadline t d := by
  simpa [deadline, h] using le_roundUpToMillis (t + d)

end ClusterGuard
