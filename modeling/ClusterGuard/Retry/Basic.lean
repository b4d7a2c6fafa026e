import ClusterGuard.Attempt
import ClusterGuard.Retry.Config
import ClusterGuard.Retry.Policy
import ClusterGuard.Time.Timer

/-!
# Retrying work

Model of `Retry`: `next_step` is `verdict`, `record_result` is `count`,
`execute_blocking_with_outcome` is `run`. `Ending` is `RetryOutcome`, `Tally` is `RetryMetrics`.

A retry runs work until an attempt succeeds, its policy says stop, or the attempts allowed are
used up. The last result is returned as it is, and the call is counted once, by whether it
succeeded and whether it took more than one attempt.

Results:
* `verdict_of_last`, `lt_of_wait`: no wait follows the last attempt allowed.
-/

namespace ClusterGuard

namespace Retry

/-- Calls counted by how they ended. -/
structure Tally where
  succeeded : Nat := 0
  succeededAfterRetry : Nat := 0
  failed : Nat := 0
  failedAfterRetry : Nat := 0
deriving DecidableEq

namespace Tally

/-- Counts a call that ended after `attempts` attempts. -/
def count (t : Tally) (succeeded : Bool) (attempts : Nat) : Tally :=
  match succeeded, decide (1 < attempts) with
  | true, false => { t with succeeded := t.succeeded + 1 }
  | true, true => { t with succeededAfterRetry := t.succeededAfterRetry + 1 }
  | false, false => { t with failed := t.failed + 1 }
  | false, true => { t with failedAfterRetry := t.failedAfterRetry + 1 }

/-- The tally in messages. -/
def text (t : Tally) : String :=
  recordText "RetryMetrics" [
    ("ok", toString t.succeeded), ("ok_after_retry", toString t.succeededAfterRetry),
    ("failed", toString t.failed), ("failed_after_retry", toString t.failedAfterRetry)]

end Tally

/-- How a retried call ended. -/
structure Ending (ε α : Type) where
  result : Except ε α
  attempts : Nat
  /-- The sum of the waits between the attempts. -/
  waited : Duration

/-- What follows a failed attempt. -/
inductive Verdict where
  | wait (d : Duration)
  | giveUp
deriving DecidableEq

end Retry

/-- A retry with its configuration, its policy and the calls it counted. -/
structure Retry (ε : Type) where
  name : String
  config : Retry.Config
  policy : Retry.Policy ε
  /-- The factor that full jitter draws for each wait. -/
  draw : Nat → Binary .double
  tally : Retry.Tally

namespace Retry

variable {σ ε α : Type}

/-- A new retry with a valid configuration. -/
def create (name : String) (config : Config) (policy : Policy ε) (draw : Nat → Binary .double) :
    Except ConfigError (Retry ε) :=
  config.validate.map fun _ => ⟨name, config, policy, draw, {}⟩

/-- The description of a retry. -/
def text (r : Retry ε) : String :=
  recordText "Retry" [("name", quoted r.name), ("config", r.config.text)]

/-- Counts a call that ended (`record_result`). -/
def count (r : Retry ε) (succeeded : Bool) (attempts : Nat) : Retry ε :=
  { r with tally := r.tally.count succeeded attempts }

/-- What follows a failure of attempt number `attempts`, counted from one (`next_step`). The policy
is asked first; its wishes count only while attempts are left. -/
def verdict (r : Retry ε) (error : ε) (attempts : Nat) : Verdict :=
  match r.policy error (attempts - 1) with
  | .stop => .giveUp
  | .retry =>
    if r.config.maxAttempts ≤ attempts then .giveUp
    else .wait (r.config.backoff.delay (r.draw (attempts - 1)) (attempts - 1))
  | .retryAfter wait => if r.config.maxAttempts ≤ attempts then .giveUp else .wait wait

theorem verdict_of_last {r : Retry ε} {attempts : Nat} (h : r.config.maxAttempts ≤ attempts)
    (error : ε) : r.verdict error attempts = .giveUp := by
  unfold verdict
  split <;> simp [h]

/-- A retry that waits has attempts left. -/
theorem lt_of_wait {r : Retry ε} {error : ε} {attempts : Nat} {d : Duration}
    (h : r.verdict error attempts = .wait d) : attempts < r.config.maxAttempts := by
  refine Nat.lt_of_not_le fun hle => ?_
  rw [verdict_of_last hle] at h
  cases h

/-- How many attempts may still follow the one that comes after `made` others. -/
def left (r : Retry ε) (made : Nat) : Nat := r.config.maxAttempts - made - 1

theorem left_of_lt {r : Retry ε} {made : Nat} (h : made + 1 < r.config.maxAttempts) :
    r.left made = r.left (made + 1) + 1 := by
  unfold left
  omega

/-- Runs the attempts from number `made` on, `left` of them after the first. `pause` is what a
wait does to the surroundings; there is none for a wait of zero. -/
def pursue (r : Retry ε) (work : Nat → σ → Except ε α × σ) (pause : Duration → σ → σ) :
    (left made : Nat) → Duration → σ → Ending ε α × σ
  | 0, made, waited, s =>
    let (result, s) := work made s
    (⟨result, made + 1, waited⟩, s)
  | left + 1, made, waited, s =>
    match work made s with
    | (.ok value, s) => (⟨.ok value, made + 1, waited⟩, s)
    | (.error error, s) =>
      match r.verdict error (made + 1) with
      | .giveUp => (⟨.error error, made + 1, waited⟩, s)
      | .wait d =>
        pursue r work pause left (made + 1) (waited + d) (if d.isZero then s else pause d s)

/-- Whether a result is a success. -/
def succeeded : Except ε α → Bool
  | .ok _ => true
  | .error _ => false

/-- Runs work to its end and counts the call (`execute_blocking_with_outcome`). -/
def run (r : Retry ε) (work : Nat → σ → Except ε α × σ) (pause : Duration → σ → σ) (s : σ) :
    Ending ε α × Retry ε × σ :=
  let (ending, s) := r.pursue work pause (r.left 0) 0 .zero s
  (ending, r.count (succeeded ending.result) ending.attempts, s)

end Retry

end ClusterGuard
