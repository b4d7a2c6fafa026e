import ClusterGuard.Dispatch.Basic
import ClusterGuard.Guard.Basic
import ClusterGuard.Memory.Hub
import ClusterGuard.Retry.Task

/-!
# Listeners

Model of the tasks that `subscribe_events` and `subscribe_to_cluster_topology_changed_events` hand
to a dispatch context.

A listener is a task that reads one feed of a publish/subscribe connection. An event listener hears
every event. A topology listener runs its handler for every change of the topology, one change
after the other, under a retry of its own; whatever the handler's errors are, they become faults.
-/

namespace ClusterGuard.PubSub

/-- What the listeners of a connection act on; `own` is their user's. -/
structure Surroundings (ω : Type) where
  guard : Guard
  hub : Memory.Hub
  own : ω

/-- The surroundings together with the retry of the topology handlers. -/
structure World (ω : Type) where
  surroundings : Surroundings ω
  topology : Retry Fault

/-- Runs work on the connection under the guard. -/
def Surroundings.run {ω α : Type} (s : Surroundings ω)
    (work : Nat → Memory.Hub → Except Cause α × Memory.Hub) : Except Fault α × Surroundings ω :=
  let (answer, guard, hub) := s.guard.run work (fun _ hub => hub) s.hub
  (answer.result, { s with guard, hub })

/-- Handles a change of the topology; handlers are told how often they were called before. -/
abbrev Handler (ω : Type) := Nat → Surroundings ω → Except Cause Unit × Surroundings ω

/-- Topology changes as a reader works through them. -/
structure Watch (ω : Type) where
  handler : Handler ω
  /-- How many calls of the handler belong to changes already dealt with. -/
  calls : Nat := 0
  /-- The events read but not yet dealt with. -/
  inbox : List Event := []
  /-- The change being dealt with. -/
  current : Option (Retry.Task (Surroundings ω) Fault Unit) := none

/-- A task that reads a feed. -/
inductive Listener (ω : Type) where
  | events (feed : Nat) (listen : Event → Desk (World ω) → Desk (World ω))
  | topology (feed : Nat) (watch : Watch ω)

namespace Watch

variable {ω : Type}

/-- The retried work of one change, before which the handler was called `calls` times. -/
def work (handler : Handler ω) (calls : Nat) : Work (Surroundings ω) Fault Unit :=
  fun n => ⟨0, Guard.reported (fun n => handler (calls + n)) n⟩

/-- Works through events up to a change whose handling has to wait. -/
def proceed (now : Instant) (handler : Handler ω) :
    List Event → (calls : Nat) → World ω → Watch ω × World ω
  | [], calls, w => (⟨handler, calls, [], none⟩, w)
  | e :: inbox, calls, w =>
    if e.isTopologyChange then
      match (Retry.Task.start (work handler calls)).poll w.topology now w.surroundings with
      | (.pending task, topology, s) => (⟨handler, calls, inbox, some task⟩, ⟨s, topology⟩)
      | (.ready ending, topology, s) =>
        proceed now handler inbox (calls + ending.attempts) ⟨s, topology⟩
    else proceed now handler inbox calls w

/-- Goes on with the change being dealt with, and then with the events read so far. -/
def poll (now : Instant) (v : Watch ω) (w : World ω) : Watch ω × World ω :=
  match v.current with
  | none => proceed now v.handler v.inbox v.calls w
  | some task =>
    match task.poll w.topology now w.surroundings with
    | (.pending task, topology, s) => ({ v with current := some task }, ⟨s, topology⟩)
    | (.ready ending, topology, s) =>
      proceed now v.handler v.inbox (v.calls + ending.attempts) ⟨s, topology⟩

/-- When the wait between two calls of the handler is over, if there is one. -/
def wakesAt? (v : Watch ω) : Option Instant := v.current.bind (·.wakesAt?)

end Watch

namespace World

variable {ω : Type}

/-- The publish/subscribe connection. -/
def hub (w : World ω) : Memory.Hub := w.surroundings.hub

/-- Replaces the publish/subscribe connection. -/
def withHub (w : World ω) (hub : Memory.Hub) : World ω :=
  { w with surroundings := { w.surroundings with hub } }

end World

namespace Listener

variable {ω : Type}

/-- The number of the feed a listener reads. -/
def feed : Listener ω → Nat
  | events feed _ | topology feed _ => feed

/-- When the wait of a listener is over, if it is waiting. -/
def wakesAt? : Listener ω → Option Instant
  | events .. => none
  | topology _ v => v.wakesAt?

/-- Whether a listener can get on: its wait is over, or it is not waiting and its feed has news. -/
def due (now : Instant) (l : Listener ω) (w : World ω) : Bool :=
  match l.wakesAt? with
  | some due => due ≤ now
  | none => w.hub.hasNews l.feed

/-- What is left of a listener: nothing once its feed is over and it waits for nothing. -/
def remains (l : Listener ω) (w : World ω) : Option (Listener ω) :=
  if l.wakesAt?.isNone && w.hub.isOver l.feed then none else some l

/-- Reads what the feed holds and deals with it as far as possible. -/
def poll (now : Instant) (l : Listener ω) (desk : Desk (World ω)) :
    Option (Listener ω) × Desk (World ω) :=
  let (news, hub) := desk.world.hub.takeAll l.feed
  let desk := { desk with world := desk.world.withHub hub }
  match l with
  | events feed listen =>
    let desk := news.foldl (fun desk e => listen e desk) desk
    ((events feed listen).remains desk.world, desk)
  | topology feed v =>
    let (v, world) := { v with inbox := v.inbox ++ news }.poll now desk.world
    ((topology feed v).remains world, { desk with world })

/-- Listeners as tasks of a dispatch context; a dropped listener drops its feed. -/
def conduct (ω : Type) : Dispatch.Conduct (World ω) (Listener ω) where
  due := due
  poll := poll
  wakesAt? := wakesAt?
  drop l w := w.withHub (w.hub.dropFeed l.feed)

end Listener

end ClusterGuard.PubSub
