import ClusterGuard.Breaker.Basic
import ClusterGuard.Severity

/-!
# Faults

Model of `ClusterError` (`Fault`) and `ExecutionError` (`CommandError`) with their
`ErrorClassification`: `is_retryable`, `severity`, `is_critical`, `retry_after`. `Cause` is
`BoxedError`; `ofCause` is `from_boxed`, and `normalize` where work ends with an error.

A `Fault` is what a caller of the cluster sees when something goes wrong. A `Cause` is any error
that work may end with: a fault, one of the errors of this library, or one of the caller's own.
`Fault.ofCause` turns the second into the first: a fault stays as it is, anything else is wrapped
once and kept as the source.

Results:
* `ofCause_eq_failed_iff`: only what is no fault itself is wrapped.
-/

namespace ClusterGuard

mutual

/-- Why an operation on the cluster did not succeed. -/
inductive Fault where
  /-- No reply came in time. -/
  | timedOut (limit : Duration)
  | disconnected
  /-- Any other complaint of the driver. -/
  | driver (complaint : String)
  | circuitOpen (rejection : Rejection)
  | shutDown (name : String)
  | misconfigured (error : ConfigError)
  /-- An error from outside. -/
  | failed (cause : Cause)

/-- Why a command that was issued without waiting has no value. -/
inductive CommandError where
  | failed (fault : Fault)
  | cancelled

/-- Any error that work may end with. -/
inductive Cause where
  | fault (fault : Fault)
  | command (error : CommandError)
  | config (error : ConfigError)
  | rejection (rejection : Rejection)
  /-- An error of the caller's own that has no source. -/
  | foreign (message : String)
  /-- An error of the caller's own that was brought about by another one. -/
  | wrapping (message : String) (source : Cause)

end

/-- The text of a fault. A rejection or a configuration error speaks for itself. -/
def Fault.message : Fault → String
  | timedOut limit => "Command timed out after " ++ limit.text
  | disconnected => "Connection is disconnected"
  | driver complaint => "Driver error: " ++ complaint
  | circuitOpen r => r.message
  | shutDown name => "Cluster client '" ++ name ++ "' has been shut down"
  | misconfigured e => e.message
  | failed _ => "Cluster operation failed"

/-- The name of the kind of a fault. -/
def Fault.kind : Fault → String
  | timedOut _ => "CommandTimeout"
  | disconnected => "Disconnected"
  | driver _ => "Driver"
  | circuitOpen _ => "CircuitOpen"
  | shutDown _ => "ShutDown"
  | misconfigured _ => "Configuration"
  | failed _ => "Failed"

/-- The name of the kind of a command error. -/
def CommandError.kind : CommandError → String
  | failed _ => "Failed"
  | cancelled => "Cancelled"

/-- The text of a command error. -/
def CommandError.message : CommandError → String
  | failed _ => "Asynchronous command failed"
  | cancelled => "Asynchronous command was cancelled before completing"

/-- The text of a cause. -/
def Cause.message : Cause → String
  | fault f => f.message
  | command e => e.message
  | config e => e.message
  | rejection r => r.message
  | foreign message => message
  | wrapping message _ => message

mutual

/-- The texts of the errors behind a fault, the nearest first. -/
def Fault.sources : Fault → List String
  | .failed cause => cause.message :: cause.sources
  | _ => []

/-- The texts of the errors behind a command error. -/
def CommandError.sources : CommandError → List String
  | .failed f => f.message :: f.sources
  | .cancelled => []

/-- The texts of the errors behind a cause. -/
def Cause.sources : Cause → List String
  | .fault f => f.sources
  | .command e => e.sources
  | .wrapping _ source => source.message :: source.sources
  | _ => []

end

namespace Fault

/-- The fault that a cause is reported as (`from_boxed`): itself if it is one, else wrapped once. -/
def ofCause : Cause → Fault
  | .fault f => f
  | cause => .failed cause

/-- Only a missing reply is worth another attempt. -/
def isRetryable : Fault → Bool
  | timedOut _ => true
  | _ => false

/-- How much attention a fault deserves. -/
def severity : Fault → Severity
  | timedOut _ | circuitOpen _ => .warning
  | shutDown _ => .info
  | disconnected | driver _ | failed _ => .error
  | misconfigured _ => .critical

/-- Whether nothing but a change of the configuration can help. -/
def isCritical : Fault → Bool
  | misconfigured _ => true
  | _ => false

/-- The rejection behind a fault, if the circuit breaker brought it about. -/
def rejection? : Fault → Option Rejection
  | circuitOpen r => some r
  | _ => none

/-- After which wait another attempt has a chance, where that is known. -/
def retryAfter (f : Fault) : Option Duration := f.rejection?.bind (·.retryAfter)

theorem ofCause_eq_failed_iff {c d : Cause} :
    ofCause c = .failed d ↔ c = .fault (.failed d) ∨ c = d ∧ ∀ f, c ≠ .fault f := by
  cases c <;> simp [ofCause]

end Fault

end ClusterGuard
