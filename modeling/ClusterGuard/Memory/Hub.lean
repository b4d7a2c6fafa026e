import ClusterGuard.Fault
import ClusterGuard.PubSub.Event

/-!
# In-memory publish/subscribe connections

Model of `MockPubSubConnection` with its `PubSubState`: `events` is `openFeed`, `subscribe`,
`publish`, `emit` and `close` keep their names, `trigger_topology_change` is `changeTopology`. A
`Feed` is one of the channels to a listener.

A hub passes every event on to every feed that was opened before it. Closing the hub ends its
feeds: what they already hold can still be read, nothing is added.

Results:
* `subscribe_of_closed`: a closed hub refuses subscriptions and stays as it is.
-/

namespace ClusterGuard.Memory

/-- One stream of events. -/
structure Feed where
  number : Nat
  /-- The events not read yet. -/
  queue : List Event := []
  /-- Whether further events may come. -/
  attached : Bool := true
deriving DecidableEq

namespace Feed

/-- Adds an event, unless the feed is detached. -/
def push (e : Event) (f : Feed) : Feed :=
  if f.attached then { f with queue := f.queue ++ [e] } else f

/-- Whether the feed has ended. -/
def isOver (f : Feed) : Bool := !f.attached && f.queue.isEmpty

end Feed

/-- A publish/subscribe connection whose events are made by its user. -/
structure Hub where
  isOpen : Bool := true
  /-- The channels subscribed since the topology last changed. -/
  subscriptions : List String := []
  /-- The feeds that were not dropped, in the order in which they were opened. -/
  feeds : List Feed := []
  /-- How many feeds were opened. -/
  opened : Nat := 0
deriving DecidableEq

namespace Hub

/-- Delivers an event to every feed. -/
def emit (e : Event) (h : Hub) : Hub := { h with feeds := h.feeds.map (·.push e) }

/-- Opens a feed and returns its number. -/
def openFeed (h : Hub) : Nat × Hub :=
  (h.opened, { h with
    feeds := h.feeds ++ [{ number := h.opened, attached := h.isOpen }]
    opened := h.opened + 1 })

/-- The feed of a number, unless it was dropped. -/
def feed? (n : Nat) (h : Hub) : Option Feed := h.feeds.find? (·.number == n)

/-- Takes every event that a feed holds. -/
def takeAll (n : Nat) (h : Hub) : List Event × Hub :=
  (((h.feed? n).map (·.queue)).getD [],
    { h with feeds := h.feeds.map fun f => if f.number == n then { f with queue := [] } else f })

/-- Whether a feed has ended or was dropped. -/
def isOver (n : Nat) (h : Hub) : Bool := (h.feed? n).all (·.isOver)

/-- Whether a reader of a feed can get on: there is an event, or the feed is over. -/
def hasNews (n : Nat) (h : Hub) : Bool := (h.feed? n).all fun f => f.isOver || !f.queue.isEmpty

/-- Drops a feed. -/
def dropFeed (n : Nat) (h : Hub) : Hub := { h with feeds := h.feeds.filter (·.number != n) }

/-- Subscribes to a channel; every feed hears of it. -/
def subscribe (channel : String) (h : Hub) : Except Fault Unit × Hub :=
  if h.isOpen then
    let subscriptions := h.subscriptions ++ [channel]
    (.ok (), { h with subscriptions }.emit (.subscribed channel subscriptions.length))
  else (.error .disconnected, h)

/-- Publishes a message. -/
def publish (channel text : String) (h : Hub) : Hub := h.emit (.message channel text)

/-- The topology changes: subscriptions are lost. -/
def changeTopology (h : Hub) : Hub := { h with subscriptions := [] }.emit .topologyChanged

/-- Closes the hub for good. -/
def close (h : Hub) : Hub :=
  { h with isOpen := false, feeds := h.feeds.map fun f => { f with attached := false } }

theorem subscribe_of_closed {h : Hub} (closed : h.isOpen = false) (channel : String) :
    h.subscribe channel = (.error .disconnected, h) := by
  simp [subscribe, closed]

end Hub

end ClusterGuard.Memory
