/-!
# Severities

Model of `ErrorSeverity`.

How much attention an error deserves, from `info` up to `critical`.
-/

namespace ClusterGuard

/-- How much attention an error deserves, in ascending order. -/
inductive Severity where
  | info
  | warning
  | error
  | critical
deriving DecidableEq

namespace Severity

/-- The place of a severity in the order. -/
def rank : Severity → Nat
  | info => 0
  | warning => 1
  | error => 2
  | critical => 3

/-- The severity as it is written in logs. -/
def label : Severity → String
  | info => "INFO"
  | warning => "WARN"
  | error => "ERROR"
  | critical => "CRITICAL"

/-- Severities in ascending order. -/
def sort (xs : List Severity) : List Severity := xs.mergeSort fun a b => a.rank ≤ b.rank

end Severity

end ClusterGuard
