/-!
# Publish/subscribe events

Model of `PubSubEvent`: `is_topology_changed` is `isTopologyChange`.

What a publish/subscribe connection reports: messages, changes of subscriptions, and changes of the
topology after which subscriptions may have to be made again.
-/

namespace ClusterGuard

/-- What a publish/subscribe connection reports. -/
inductive Event where
  | message (channel text : String)
  /-- A message on a channel that matches a subscribed pattern. -/
  | patternMessage (pattern channel text : String)
  /-- A new subscription, and how many there are now. -/
  | subscribed (channel : String) (count : Nat)
  | unsubscribed (channel : String) (count : Nat)
  | topologyChanged
deriving DecidableEq

/-- Whether the event tells of a change of the topology. -/
def Event.isTopologyChange : Event → Bool
  | topologyChanged => true
  | _ => false

end ClusterGuard
