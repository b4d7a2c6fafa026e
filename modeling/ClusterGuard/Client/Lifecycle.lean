import ClusterGuard.Client.Basic

/-!
# The lifecycle of a client

Model of `ClusterClient`: `create_pub_sub_connection` is `openPubSub`, `shutdown` is `shutDown`.
`Facilities` are what they ask of `ClusterTransport` (`connect_pub_sub`, `shutdown`),
`ClusterConnection` (`close`) and `DispatchContext` (`start`, `shutdown`).

Publish/subscribe connections are opened on demand until the client is shut down. Shutting down
closes everything in a fixed order, once.

How that is done is told for all surroundings, with their own transport and their own dispatch
contexts, by the `Facilities` they offer. Those in memory are one case.

Results:
* `openPubSub_of_shutDown`: a client that was shut down asks for no connection.
* `openPubSub_of_refused`, `openPubSub_of_failed`, `openPubSub_of_started`: what else asking for one
  comes to.
* `shutDown_of_shutDown`: shutting down again changes nothing.
-/

namespace ClusterGuard.Client

variable {ω κ : Type}

/-! ## Opening and closing -/

/-- One thing that is closed when a client is shut down. -/
inductive Closing where
  | connection (lane : Memory.Lane)
  | pubSub (number : Nat)
  | dispatch (number : Nat)
  | transport
deriving DecidableEq

/-- How a client opens publish/subscribe connections and closes what it holds, in surroundings
`κ`. -/
structure Facilities (κ : Type) where
  /-- Asks the transport for a connection, which goes by its number from then on. -/
  connect : κ → Except Fault Nat × κ
  /-- Starts a dispatch context of this name for a connection, or tells why not. -/
  startDispatch : String → Nat → κ → Option Fault × κ
  close : Closing → κ → κ

/-- The name of the dispatch contexts of a client. -/
def contextName (name : String) : String := name ++ "-pubsub-events"

namespace Facilities

variable (f : Facilities κ)

/-- Opens a publish/subscribe connection with a dispatch context of its own, and enters it into the
registry (`create_pub_sub_connection`). -/
def openPubSub (name : String) (r : Registry) (k : κ) : Except Fault Nat × Registry × κ :=
  if r.isShutDown then (.error (.shutDown name), r, k)
  else
    match f.connect k with
    | (.error fault, k) => (.error fault, r, k)
    | (.ok number, k) =>
      match f.startDispatch (contextName name) number k with
      | (some fault, k) => (.error fault, r, f.close (.pubSub number) k)
      | (none, k) => (.ok number, { r with records := r.records ++ [number] }, k)

/-- Closes publish/subscribe connections, each of them before its dispatch context. -/
def closeRecords (records : List Nat) (k : κ) : κ :=
  records.foldl (fun k number => f.close (.dispatch number) (f.close (.pubSub number) k)) k

/-- Closes everything, unless that was done before (`shutdown`). -/
def shutDown (r : Registry) (k : κ) : Registry × κ :=
  if r.isShutDown then (r, k)
  else
    let k := f.close (.connection .text) k
    let k := f.close (.connection .binary) k
    let k := f.closeRecords r.records k
    ({ records := [], isShutDown := true }, f.close .transport k)

variable {f} {name : String} {r : Registry} {k k' k'' : κ} {number : Nat} {fault : Fault}

theorem openPubSub_of_shutDown (h : r.isShutDown = true) (k : κ) :
    f.openPubSub name r k = (.error (.shutDown name), r, k) := by
  simp [openPubSub, h]

theorem openPubSub_of_refused (h : r.isShutDown = false) (hc : f.connect k = (.error fault, k')) :
    f.openPubSub name r k = (.error fault, r, k') := by
  simp [openPubSub, h, hc]

theorem openPubSub_of_failed (h : r.isShutDown = false) (hc : f.connect k = (.ok number, k'))
    (hs : f.startDispatch (contextName name) number k' = (some fault, k'')) :
    f.openPubSub name r k = (.error fault, r, f.close (.pubSub number) k'') := by
  simp [openPubSub, h, hc, hs]

theorem openPubSub_of_started (h : r.isShutDown = false) (hc : f.connect k = (.ok number, k'))
    (hs : f.startDispatch (contextName name) number k' = (none, k'')) :
    f.openPubSub name r k = (.ok number, { r with records := r.records ++ [number] }, k'') := by
  simp [openPubSub, h, hc, hs]

theorem shutDown_of_shutDown (h : r.isShutDown = true) (k : κ) : f.shutDown r k = (r, k) := by
  simp [shutDown, h]

end Facilities

/-! ## Clients in memory -/

/-- Changes a publish/subscribe connection and what it shares with the others. -/
def changePubSub (number : Nat)
    (change : PubSub.Connection ω → PubSub.Shared ω → PubSub.Connection ω × PubSub.Shared ω)
    (c : Client ω) : Client ω :=
  match c.connections[number]? with
  | none => c
  | some connection =>
    let (connection, shared) := change connection c.shared
    { c with connections := c.connections.set number connection, shared }

/-- Lets the listeners of every connection run, each in at most `steps` steps. -/
def settle (steps : Nat) (c : Client ω) : Client ω :=
  (List.range c.connections.length).foldl
    (fun c number => c.changePubSub number fun p shared => p.settle steps shared) c

/-- Asks the transport for a publish/subscribe connection (`connect_pub_sub`). -/
def connectPubSub (c : Client ω) : Except Fault Nat × Client ω :=
  let number := c.connections.length
  match c.transport.openPubSub number with
  | (.error fault, transport) => (.error fault, { c with transport })
  | (.ok hub, transport) =>
    let connection := .unstarted (c.name ++ "-pubsub") hub
    (.ok number, { c with transport, connections := c.connections ++ [connection] })

/-- Closes one thing. -/
def close (x : Closing) (c : Client ω) : Client ω :=
  match x with
  | .connection lane => c.driven (·.close lane)
  | .pubSub number => c.changePubSub number fun p shared => (p.driven .close, shared)
  | .dispatch number => c.changePubSub number fun p shared => p.stop shared
  | .transport => c.driven (·.shutDown)

/-- What there is in memory. Dispatch contexts always start there. -/
def facilities (ω : Type) : Facilities (Client ω) where
  connect := connectPubSub
  startDispatch context number c :=
    (none, c.changePubSub number fun p shared => (p.start context, shared))
  close := close

/-- Opens a publish/subscribe connection; returns its number. -/
def openPubSub (c : Client ω) : Except Fault Nat × Client ω :=
  let (opened, registry, c) := (facilities ω).openPubSub c.name c.registry c
  (opened, { c with registry })

/-- Closes everything, unless that was done before. -/
def shutDown (c : Client ω) : Client ω :=
  let (registry, c) := (facilities ω).shutDown c.registry c
  { c with registry }

theorem shutDown_of_shutDown {c : Client ω} (h : c.isShutDown = true) : c.shutDown = c := by
  simp [shutDown, Facilities.shutDown_of_shutDown h]

theorem openPubSub_of_shutDown {c : Client ω} (h : c.isShutDown = true) :
    c.openPubSub = (.error (.shutDown c.name), c) := by
  simp [openPubSub, Facilities.openPubSub_of_shutDown h]

end ClusterGuard.Client
