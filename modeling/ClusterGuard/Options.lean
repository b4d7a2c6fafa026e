import ClusterGuard.Time.Duration

/-!
# Driver options

Model of `ClusterClientOptions`: `fault_tolerant`, with `DisconnectedBehavior` (`WhenDisconnected`)
and `RefreshTrigger`.

What the driver is told before it connects. The options in use make commands fail at once while a
connection is down, so that the breaker hears of it, and refresh the topology on every occasion.
-/

namespace ClusterGuard

/-- What happens to commands issued while a connection is down. -/
inductive WhenDisconnected where
  /-- They are kept as long as the driver reconnects by itself. -/
  | keepWhileReconnecting
  | accept
  | reject
deriving DecidableEq

/-- The choice in descriptions of options. -/
def WhenDisconnected.label : WhenDisconnected → String
  | keepWhileReconnecting => "Default"
  | accept => "AcceptCommands"
  | reject => "RejectCommands"

/-- What makes the driver look at the topology of the cluster again. -/
inductive RefreshTrigger where
  | movedRedirect
  | askRedirect
  | persistentReconnects
  | uncoveredSlot
  | unknownNode
deriving DecidableEq

namespace RefreshTrigger

/-- Every trigger. -/
def all : List RefreshTrigger :=
  [movedRedirect, askRedirect, persistentReconnects, uncoveredSlot, unknownNode]

/-- The trigger in descriptions of options. -/
def label : RefreshTrigger → String
  | movedRedirect => "MovedRedirect"
  | askRedirect => "AskRedirect"
  | persistentReconnects => "PersistentReconnects"
  | uncoveredSlot => "UncoveredSlot"
  | unknownNode => "UnknownNode"

end RefreshTrigger

/-- What the driver is told before it connects. -/
structure DriverOptions where
  whenDisconnected : WhenDisconnected
  validateMembership : Bool
  refreshTriggers : List RefreshTrigger
  /-- How long every command may take. -/
  commandTimeout : Duration
  /-- Whether streams are published on the driver's own scheduler. -/
  publishOnScheduler : Bool
deriving DecidableEq

/-- The options of a fault-tolerant client. -/
def DriverOptions.faultTolerant (commandTimeout : Duration) : DriverOptions where
  whenDisconnected := .reject
  validateMembership := false
  refreshTriggers := RefreshTrigger.all
  commandTimeout := commandTimeout
  publishOnScheduler := true

end ClusterGuard
