import ClusterGuard.Memory.Connection
import ClusterGuard.Memory.Hub
import ClusterGuard.Options

/-!
# In-memory transports

Model of `MockTransport` with its `TransportState`: `set_options`, `connect` and `connect_binary`
(`refusal?`), `connect_pub_sub` (`openPubSub`), `fail_binary_connections`,
`fail_pub_sub_connections`, `shutdown`. `pubSubs` is what `pub_sub_connections` tells.

A transport holds one text and one binary command connection and opens a new publish/subscribe
connection on every request. Each kind of connection can be made to refuse. Which publish/subscribe
connections it has opened can be read from it at any time.
-/

namespace ClusterGuard.Memory

/-- The two kinds of command connections. -/
inductive Lane where
  | text
  | binary
deriving DecidableEq

/-- A driver that never touches a network. -/
structure Transport where
  options : Option DriverOptions := none
  isShutDown : Bool := false
  textConnection : Connection := {}
  binaryConnection : Connection := {}
  /-- Why text connections are refused, if they are. -/
  refusesText : Option Fault := none
  refusesBinary : Option Fault := none
  refusesPubSub : Option Fault := none
  /-- The numbers of the publish/subscribe connections it has opened, in order. -/
  pubSubs : List Nat := []

namespace Transport

/-- The fault of a refused binary connection. -/
def binaryRefused : Fault := .driver "binary connection refused"

/-- The fault of a refused publish/subscribe connection. -/
def pubSubRefused : Fault := .driver "pub/sub connection refused"

/-- Takes the options, and the command timeout among them for both connections. -/
def setOptions (options : DriverOptions) (t : Transport) : Transport := { t with
  options := some options
  textConnection := { t.textConnection with commandTimeout := options.commandTimeout }
  binaryConnection := { t.binaryConnection with commandTimeout := options.commandTimeout } }

/-- The connection of a lane. -/
def connection (lane : Lane) (t : Transport) : Connection :=
  match lane with
  | .text => t.textConnection
  | .binary => t.binaryConnection

/-- Replaces the connection of a lane. -/
def withConnection (lane : Lane) (c : Connection) (t : Transport) : Transport :=
  match lane with
  | .text => { t with textConnection := c }
  | .binary => { t with binaryConnection := c }

/-- The driver acts on the connection of a lane. -/
def driven (lane : Lane) (act : Connection → Connection) (t : Transport) : Transport :=
  t.withConnection lane (act (t.connection lane))

/-- Closes the connection of a lane. -/
def close (lane : Lane) (t : Transport) : Transport := t.driven lane .close

/-- Why a lane cannot be connected, if it cannot. -/
def refusal? (lane : Lane) (t : Transport) : Option Fault :=
  match lane with
  | .text => t.refusesText
  | .binary => t.refusesBinary

/-- Opens a publish/subscribe connection, which goes by this number from now on
(`connect_pub_sub`). -/
def openPubSub (number : Nat) (t : Transport) : Except Fault Hub × Transport :=
  match t.refusesPubSub with
  | some fault => (.error fault, t)
  | none => (.ok {}, { t with pubSubs := t.pubSubs ++ [number] })

/-- Refuses binary connections, or accepts them again. -/
def refuseBinary (refuse : Bool) (t : Transport) : Transport :=
  { t with refusesBinary := if refuse then some binaryRefused else none }

/-- Refuses publish/subscribe connections, or accepts them again. -/
def refusePubSub (refuse : Bool) (t : Transport) : Transport :=
  { t with refusesPubSub := if refuse then some pubSubRefused else none }

/-- Releases the driver. -/
def shutDown (t : Transport) : Transport := { t with isShutDown := true }

end Transport

end ClusterGuard.Memory
