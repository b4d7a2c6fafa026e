import ClusterGuard.PubSub.Listener

/-!
# Guarded publish/subscribe connections

Model of `FaultTolerantPubSubConnection`: `with_pub_sub_connection` and `use_pub_sub_connection` are
`run`, `subscribe_events` is `listen`, `subscribe_to_cluster_topology_changed_events` is `watch`.

A guarded connection runs its commands under the guard it shares with its client, and delivers its
events on a dispatch context of its own.

Results:
* `listen_of_stopped`, `watch_of_stopped`: no listener is taken once the context was shut down.
-/

namespace ClusterGuard.PubSub

/-- What all connections of a client share; `own` is their user's. -/
structure Shared (ω : Type) where
  guard : Guard
  /-- The retry of the topology handlers. -/
  topology : Retry Fault
  own : ω

/-- A publish/subscribe connection with its dispatch context. -/
structure Connection (ω : Type) where
  name : String
  hub : Memory.Hub
  dispatch : Dispatch (Listener ω)

namespace Connection

variable {ω α : Type}

/-- A connection whose dispatch context was not started yet: it takes no listener. -/
def unstarted (name : String) (hub : Memory.Hub) : Connection ω :=
  ⟨name, hub, { name := "", accepting := false }⟩

/-- Starts the dispatch context of a connection. -/
def start (context : String) (c : Connection ω) : Connection ω :=
  { c with dispatch := { name := context } }

/-- A new connection whose listeners run on a context of the given name. -/
def create (name context : String) (hub : Memory.Hub) : Connection ω :=
  (unstarted name hub).start context

/-- The description of a connection. -/
def text (c : Connection ω) : String :=
  recordText "FaultTolerantPubSubConnection" [
    ("name", quoted c.name), ("open", boolText c.hub.isOpen),
    ("dispatch", quoted c.dispatch.name)]

/-- What the listeners of a connection act on. -/
def world (c : Connection ω) (shared : Shared ω) : World ω :=
  ⟨⟨shared.guard, c.hub, shared.own⟩, shared.topology⟩

/-- The connection and what it shares after its listeners acted. -/
def afterwards (c : Connection ω) (dispatch : Dispatch (Listener ω)) (w : World ω) :
    Connection ω × Shared ω :=
  ({ c with hub := w.hub, dispatch }, ⟨w.surroundings.guard, w.topology, w.surroundings.own⟩)

/-! ## Commands -/

/-- Runs a command on the connection under the guard. -/
def run (c : Connection ω) (shared : Shared ω)
    (work : Nat → Memory.Hub → Except Cause α × Memory.Hub) :
    Except Fault α × Connection ω × Shared ω :=
  let (result, s) := (c.world shared).surroundings.run work
  (result, { c with hub := s.hub }, { shared with guard := s.guard })

/-! ## Listeners -/

/-- Opens a feed for a listener and hands the listener to the context. -/
def attach (c : Connection ω) (listener : Nat → Listener ω) :
    Except Fault Unit × Connection ω :=
  let (feed, hub) := c.hub.openFeed
  match c.dispatch.spawn (listener feed) with
  | .ok dispatch => (.ok (), { c with hub, dispatch })
  | .error fault => (.error fault, { c with hub := hub.dropFeed feed })

/-- Delivers every later event to a listener (`subscribe_events`). -/
def listen (c : Connection ω) (listen : Event → Desk (World ω) → Desk (World ω)) :
    Except Fault Unit × Connection ω := c.attach fun feed => .events feed listen

/-- Runs a handler for every later change of the topology
(`subscribe_to_cluster_topology_changed_events`). -/
def watch (c : Connection ω) (handler : Handler ω) : Except Fault Unit × Connection ω :=
  c.attach fun feed => .topology feed { handler }

/-- Lets the listeners run until none can get on, in at most `steps` steps. -/
def settle (steps : Nat) (c : Connection ω) (shared : Shared ω) : Connection ω × Shared ω :=
  let (dispatch, w) := Dispatch.settle (Listener.conduct ω) steps c.dispatch (c.world shared)
  c.afterwards dispatch w

/-- Shuts the dispatch context down. -/
def stop (c : Connection ω) (shared : Shared ω) : Connection ω × Shared ω :=
  let (dispatch, w) := c.dispatch.shutDown (Listener.conduct ω) (c.world shared)
  c.afterwards dispatch w

/-! ## What the driver does -/

/-- The driver acts on the connection. -/
def driven (act : Memory.Hub → Memory.Hub) (c : Connection ω) : Connection ω :=
  { c with hub := act c.hub }

theorem attach_of_stopped {c : Connection ω} (h : c.dispatch.accepting = false)
    (listener : Nat → Listener ω) :
    (c.attach listener).1 = .error (.shutDown c.dispatch.name) := by
  simp [attach, Dispatch.spawn_of_stopped h]

theorem listen_of_stopped {c : Connection ω} (h : c.dispatch.accepting = false)
    (listener : Event → Desk (World ω) → Desk (World ω)) :
    (c.listen listener).1 = .error (.shutDown c.dispatch.name) := attach_of_stopped h _

theorem watch_of_stopped {c : Connection ω} (h : c.dispatch.accepting = false)
    (handler : Handler ω) :
    (c.watch handler).1 = .error (.shutDown c.dispatch.name) := attach_of_stopped h _

end Connection

end ClusterGuard.PubSub
