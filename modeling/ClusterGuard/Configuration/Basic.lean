import ClusterGuard.Breaker.Config
import ClusterGuard.Endpoint
import ClusterGuard.Retry.Config

/-!
# Configurations

Model of `ClusterConfiguration` (`validate`; `endpoint` is `cluster_uri`),
`CircuitBreakerConfiguration` (`config` is `to_circuit_breaker_config`), `RetryConfiguration`
(`config` is `to_retry_config`) and `BackoffConfiguration`, with their defaults.

What a document says about one client: where its cluster is, how long a command may take, and the
settings of the breaker and of the retry. Every setting but the address has a default.

Results:
* `validate_ok_iff`: a configuration is valid exactly when each of its parts can be made from it.
-/

namespace ClusterGuard

namespace Configuration

/-- The settings of the circuit breaker. -/
structure BreakerSettings where
  threshold : Binary .single := .ofNat _ 50
  trials : Nat := 10
  window : Nat := 100
  minimum : Nat := 100
  wait : Duration := .ofSeconds 10
deriving DecidableEq

/-- How the waits between attempts grow. -/
inductive BackoffSettings where
  | constant
  /-- Each wait is a multiple of the one before; with jitter a random part of that. -/
  | exponential (multiplier : Binary .double) (maxWait : Duration) (jitter : Bool)
deriving DecidableEq

/-- The settings of the retry. -/
structure RetrySettings where
  maxAttempts : Nat := 3
  wait : Duration := .ofMillis 50
  backoff : BackoffSettings := .constant
deriving DecidableEq

/-- The breaker configuration of the settings, if it is valid. -/
def BreakerSettings.config (s : BreakerSettings) : Except ConfigError Breaker.Config :=
  let c : Breaker.Config := ⟨s.window, s.minimum, s.threshold, s.wait, s.trials⟩
  c.validate.map fun _ => c

/-- The backoff of the settings. -/
def RetrySettings.toBackoff (s : RetrySettings) : Backoff :=
  match s.backoff with
  | .constant => .fixed s.wait
  | .exponential multiplier maxWait jitter =>
    ⟨.exponential s.wait multiplier maxWait, if jitter then .full else .none⟩

/-- The retry configuration of the settings, if it is valid. -/
def RetrySettings.config (s : RetrySettings) : Except ConfigError Retry.Config :=
  let c : Retry.Config := ⟨s.maxAttempts, s.toBackoff⟩
  c.validate.map fun _ => c

end Configuration

/-- The configuration of one client. -/
structure Configuration where
  uri : String
  timeout : Duration := .ofSeconds 3
  breaker : Configuration.BreakerSettings := {}
  retry : Configuration.RetrySettings := {}
deriving DecidableEq

namespace Configuration

/-- The address of the cluster, if it is one. -/
def endpoint (c : Configuration) : Except ConfigError Endpoint := Endpoint.parse c.uri c.timeout

/-- Refuses a configuration, naming its first invalid field. -/
def validate (c : Configuration) : Except ConfigError Unit := do
  if c.timeout.isZero then throw (.invalid "timeout" "must be greater than zero")
  let _ ← c.endpoint
  let _ ← c.breaker.config
  let _ ← c.retry.config

theorem validate_ok_iff (c : Configuration) :
    c.validate = .ok () ↔ c.timeout.isZero = false ∧ (∃ e, c.endpoint = .ok e) ∧
      (∃ b, c.breaker.config = .ok b) ∧ ∃ r, c.retry.config = .ok r := by
  unfold validate
  cases c.timeout.isZero <;> cases c.endpoint <;> cases c.breaker.config <;>
    cases c.retry.config <;>
    simp [bind, Except.bind, pure, Except.pure, throw, throwThe, MonadExceptOf.throw]

end Configuration

end ClusterGuard
