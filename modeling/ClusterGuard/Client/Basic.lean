import ClusterGuard.Configuration.Basic
import ClusterGuard.Guard.Stream
import ClusterGuard.Memory.Transport
import ClusterGuard.PubSub.Connection
import ClusterGuard.Stream.Taken

/-!
# Clients

Model of `ClusterClient`: `new` is `create`, `from_configuration` is `ofConfiguration`. Its commands
(`with_connection`, `use_connection` and their kin for text and binary) are `run`, its streams
(`with_connection_reactive`) are `collect`; `Registry` is `PubSubRegistry`.

A client owns a text and a binary command connection and any number of publish/subscribe
connections, and runs every command under one guard.
-/

namespace ClusterGuard

/-- What a client has to close when it is shut down, and whether it was. -/
structure Client.Registry where
  /-- The numbers of the publish/subscribe connections, in the order in which they were opened. -/
  records : List Nat := []
  isShutDown : Bool := false

/-- A client of one cluster; `ω` is what the listeners of its user act on. -/
structure Client (ω : Type) where
  name : String
  transport : Memory.Transport
  /-- What all publish/subscribe connections share: the guard, the topology retry, and `own`. -/
  shared : PubSub.Shared ω
  /-- The publish/subscribe connections opened so far. -/
  connections : List (PubSub.Connection ω) := []
  registry : Client.Registry := {}

namespace Client

variable {ω α : Type}

/-- Whether a client was shut down. -/
def isShutDown (c : Client ω) : Bool := c.registry.isShutDown

/-- The guard of every command. -/
def guard (c : Client ω) : Guard := c.shared.guard

/-- Replaces the guard. -/
def withGuard (c : Client ω) (guard : Guard) : Client ω :=
  { c with shared := { c.shared with guard } }

/-- The driver acts on the transport. -/
def driven (act : Memory.Transport → Memory.Transport) (c : Client ω) : Client ω :=
  { c with transport := act c.transport }

/-- The description of a client. -/
def text (c : Client ω) : String :=
  recordText "ClusterClient" [
    ("name", quoted c.name), ("breaker", c.guard.breaker.text),
    ("pub_sub_connections", toString c.registry.records.length),
    ("shut_down", boolText c.isShutDown)]

/-! ## Construction -/

/-- Topology handlers are tried again without a bound, after random waits of up to 30 seconds. -/
def topologyConfig : Retry.Config where
  maxAttempts := Retry.unbounded
  backoff := ⟨.exponential (.ofSeconds 1) (.ofDecimal _ false 15 (-1)) (.ofSeconds 30), .full⟩

/-- The policies of a client, named after it. -/
def policies (name : String) (breaker : Breaker.Config) (retry : Retry.Config)
    (draw : Nat → Binary .double) (own : ω) : Except ConfigError (PubSub.Shared ω) := do
  let guard ← Guard.create name breaker retry draw
  let topology ← Retry.create (name ++ "-topology-changed-retry") topologyConfig .always draw
  return ⟨guard, topology, own⟩

/-- Tells the driver its options and connects. What goes wrong is returned with the transport as
it was left: nothing stays open. -/
def connect (name : String) (transport : Memory.Transport) (timeout : Duration)
    (shared : PubSub.Shared ω) : Except (Fault × Memory.Transport) (Client ω) :=
  let transport := transport.setOptions (.faultTolerant timeout)
  match transport.refusal? .text with
  | some fault => .error (fault, transport)
  | none =>
    match transport.refusal? .binary with
    | some fault => .error (fault, transport.close .text)
    | none => .ok { name, transport, shared }

/-- A new client on a transport. -/
def create (name : String) (transport : Memory.Transport) (timeout : Duration)
    (breaker : Breaker.Config) (retry : Retry.Config) (draw : Nat → Binary .double) (own : ω) :
    Except (Fault × Memory.Transport) (Client ω) :=
  match policies name breaker retry draw own with
  | .error e => .error (.misconfigured e, transport)
  | .ok shared => connect name transport timeout shared

/-- A new client with the settings of a configuration. `open?` makes the transport for its address;
it is not asked before the whole configuration is known to be valid. -/
def ofConfiguration {κ : Type} (name : String) (c : Configuration)
    (open? : Endpoint → κ → Except Fault Memory.Transport × κ) (draw : Nat → Binary .double)
    (own : ω) (k : κ) : Except (Fault × Option Memory.Transport) (Client ω) × κ :=
  let settings : Except ConfigError (Endpoint × Breaker.Config × Retry.Config) := do
    c.validate
    return (← c.endpoint, ← c.breaker.config, ← c.retry.config)
  match settings with
  | .error e => (.error (.misconfigured e, none), k)
  | .ok (endpoint, breaker, retry) =>
    match open? endpoint k with
    | (.error fault, k) => (.error (fault, none), k)
    | (.ok transport, k) =>
      ((create name transport endpoint.timeout breaker retry draw own).mapError
        fun (fault, transport) => (fault, some transport), k)

/-! ## Commands -/

/-- Runs work on a command connection under the guard. -/
def run (c : Client ω) (lane : Memory.Lane)
    (work : Nat → Memory.Connection → Except Cause α × Memory.Connection) :
    Guard.Answer α × Client ω :=
  let (answer, guard, connection) :=
    c.guard.run work (fun _ connection => connection) (c.transport.connection lane)
  (answer, { c with transport := c.transport.withConnection lane connection }.withGuard guard)

/-- Collects a guarded stream over a command connection, at most `wanted` items of it, in at most
`polls` polls, and drops what is left: the items, and how many subscriptions were begun. -/
def collect (c : Client ω) (lane : Memory.Lane)
    (subscriptions : Nat → Script Memory.Connection Cause α) (wanted polls : Nat) :
    List (Except Fault α) × Nat × Client ω :=
  let source (now : Instant) := Taken.source (Guard.source (σ := Memory.Connection) (α := α) now)
  let (items, now, s, world) := drain source polls .zero ⟨wanted, Guard.stream subscriptions⟩
    (c.guard, c.transport.connection lane)
  let (guard, connection) := (source now).drop s world
  (items, s.inner.attempts,
    { c with transport := c.transport.withConnection lane connection }.withGuard guard)

end Client

end ClusterGuard
