import ClusterGuard.Retry.Backoff

/-!
# Retry configurations

Model of `RetryConfig`: its defaults, `validate`, `is_unbounded`.

Results:
* `validate_ok_iff`: a configuration is accepted exactly when it is `Valid`.
-/

namespace ClusterGuard.Retry

/-- The number of attempts that stands for retrying without a bound. -/
def unbounded : Nat := UInt32.size - 1

/-- How often, and after which waits, work is tried. -/
structure Config where
  /-- The number of attempts, the first one included. -/
  maxAttempts : Nat := 3
  backoff : Backoff := {}
deriving DecidableEq

namespace Config

/-- Whether a number makes sense as a multiplier: finite and above zero. -/
def isMultiplier (x : Binary .double) : Bool := x.isFinite && (Binary.zero false).lt x

/-- Whether the multiplier of a strategy, if it has one, makes sense. -/
def soundStrategy : Strategy → Bool
  | .fixed _ => true
  | .exponential _ multiplier _ => isMultiplier multiplier

/-- A configuration work can be retried with. -/
def Valid (c : Config) : Prop := 0 < c.maxAttempts ∧ soundStrategy c.backoff.strategy

instance (c : Config) : Decidable c.Valid := by unfold Valid; infer_instance

/-- Refuses a configuration, naming its first invalid field. -/
def validate (c : Config) : Except ConfigError Unit :=
  if c.maxAttempts = 0 then .error (.invalid "max_attempts" "must be greater than 0")
  else match c.backoff.strategy with
    | .fixed _ => .ok ()
    | .exponential _ multiplier _ =>
      if isMultiplier multiplier then .ok ()
      else .error (.invalid "backoff.multiplier"
        ("must be a positive number, got " ++ multiplier.text messageNumber))

theorem validate_ok_iff (c : Config) : c.validate = .ok () ↔ c.Valid := by
  unfold validate Valid soundStrategy
  split
  · simp_all
  · split
    · simp_all; omega
    · split <;> simp_all
      omega

/-- Whether work is retried without a bound. -/
def isUnbounded (c : Config) : Bool := c.maxAttempts == unbounded

/-- The description of a configuration. -/
def text (c : Config) : String :=
  recordText "RetryConfig" [("max_attempts", toString c.maxAttempts), ("backoff", c.backoff.text)]

end Config

end ClusterGuard.Retry
