import ClusterGuard.ConfigError
import ClusterGuard.Time.Duration
import ClusterGuard.Uri.Basic

/-!
# Endpoints

Model of `ClusterUri`: `parse`, `host`, `port`, and its `Display` form (`text`).

An endpoint is the address of a cluster together with the time a command may take there.
-/

namespace ClusterGuard

/-- Where a cluster is found, and how long a command may take there. -/
structure Endpoint where
  uri : Uri
  timeout : Duration
deriving DecidableEq

namespace Endpoint

/-- The port of an address that names none. -/
def defaultPort : Nat := 6379

/-- Reads an endpoint. -/
def parse (text : String) (timeout : Duration) : Except ConfigError Endpoint :=
  match Uri.read? text with
  | .ok uri => .ok ⟨uri, timeout⟩
  | .error e => .error (.invalid "configuration_uri" e.message)

/-- The host in its normal form. -/
def host (e : Endpoint) : String := String.ofList e.uri.host.text

/-- The port, or the usual one. -/
def port (e : Endpoint) : Nat := e.uri.port.getD defaultPort

/-- The text of an endpoint, which never shows a password. -/
def text (e : Endpoint) : String := e.uri.redacted.text

end Endpoint

end ClusterGuard
