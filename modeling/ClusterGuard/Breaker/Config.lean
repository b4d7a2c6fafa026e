import ClusterGuard.ConfigError
import ClusterGuard.Number.Text
import ClusterGuard.Text.Record
import ClusterGuard.Time.Text

/-!
# Circuit breaker configurations

Model of `CircuitBreakerConfig`: its defaults, `validate`, `effective_minimum_calls`. `create`
checks what `build` and `with_clock` check.

Results:
* `validate_ok_iff`: a configuration is accepted exactly when it is `Valid`.
-/

namespace ClusterGuard

/-- The layout of numbers in messages: no exponent, no fraction for whole numbers. -/
def messageNumber : NumberStyle := .plain

/-- The layout of numbers in descriptions of values. -/
def descriptionNumber : NumberStyle := .debug

namespace Breaker

/-- How a circuit breaker judges calls. -/
structure Config where
  /-- How many of the latest outcomes are kept. -/
  window : Nat := 100
  /-- How many outcomes must be kept before the failure rate counts. -/
  minimum : Nat := 100
  /-- The failure rate, in percent, at which the circuit opens. -/
  threshold : Binary .single := .ofNat _ 50
  /-- How long an open circuit rejects every call. -/
  wait : Duration := .ofSeconds 60
  /-- How many trial calls may run at once while the circuit is half open. -/
  trials : Nat := 10
deriving DecidableEq

namespace Config

/-- Whether a failure rate makes sense as a threshold: above zero and at most a hundred. -/
def isThreshold (x : Binary .single) : Bool :=
  (Binary.zero false).lt x && x.le (Binary.ofNat _ 100)

/-- A configuration a breaker can work with. -/
def Valid (c : Config) : Prop :=
  0 < c.window ∧ 0 < c.minimum ∧ isThreshold c.threshold ∧ 0 < c.trials

instance (c : Config) : Decidable c.Valid := by unfold Valid; infer_instance

/-- Refuses a configuration, naming its first invalid field. -/
def validate (c : Config) : Except ConfigError Unit :=
  if c.window = 0 then
    .error (.invalid "sliding_window_size" "must be greater than 0")
  else if c.minimum = 0 then
    .error (.invalid "minimum_number_of_calls" "must be greater than 0")
  else if !isThreshold c.threshold then
    .error (.invalid "failure_rate_threshold"
      ("must be in (0, 100], got " ++ c.threshold.text messageNumber))
  else if c.trials = 0 then
    .error (.invalid "permitted_calls_in_half_open_state" "must be greater than 0")
  else .ok ()

theorem validate_ok_iff (c : Config) : c.validate = .ok () ↔ c.Valid := by
  unfold validate Valid
  repeat' split
  all_goals simp_all <;> omega

/-- How many outcomes must be kept before the failure rate counts; never more than are kept. -/
def effectiveMinimum (c : Config) : Nat := min c.minimum c.window

/-- The description of a configuration. -/
def text (c : Config) : String :=
  recordText "CircuitBreakerConfig" [
    ("sliding_window_size", toString c.window),
    ("minimum_number_of_calls", toString c.minimum),
    ("failure_rate_threshold", c.threshold.text descriptionNumber),
    ("wait_duration_in_open_state", c.wait.text),
    ("permitted_calls_in_half_open_state", toString c.trials)]

end Config

end Breaker

end ClusterGuard
