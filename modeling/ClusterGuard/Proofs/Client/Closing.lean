import ClusterGuard.Proofs.Client.Journal
import ClusterGuard.Proofs.Guard.Keeping

/-!
# What is closed stays closed

Closing one thing of a client closes that thing and no other. After that nothing opens it again:
the operations of a connection do not, whatever work is made of them, and on a client of which
everything is closed listeners and handlers do not run any more.

Results:
* `Connection.Reaches.shut`, `Hub.Reaches.shut`: a closed connection is closed for good.
* **`closed_close_iff`**, `closed_closeAll_iff`: what closing comes to, one thing or several.
* `Continues`: what a use of a client keeps; `continues_leave`, `continues_changePubSub` and the
  like say so of each kind of use.
* `keeps_run`, `keeps_collect`: commands that are run to their end.
-/

namespace ClusterGuard

/-! ## Connections -/

namespace Memory

namespace Connection

/-- Whether a connection was closed. -/
def Shut (c : Connection) : Prop := c.isOpen = false

/-- What the operations of a connection can make of it, one after the other. -/
inductive Reaches (c : Connection) : Connection → Prop
  | refl : Reaches c c
  | get {d : Connection} (key : String) (h : c.Reaches d) : Reaches c (d.get key).2
  | pop {d : Connection} (h : c.Reaches d) : Reaches c d.pop.2
  | push {d : Connection} (response : Except Fault String) (h : c.Reaches d) :
      Reaches c (d.push response)
  | pushTimeouts {d : Connection} (n : Nat) (h : c.Reaches d) : Reaches c (d.pushTimeouts n)
  | close {d : Connection} (h : c.Reaches d) : Reaches c d.close

theorem Reaches.shut {c d : Connection} (h : c.Reaches d) (hc : c.Shut) : d.Shut := by
  induction h with
  | refl => exact hc
  | get key _ ih =>
    rw [get_of_closed ih]
    exact ih
  | pop _ ih =>
    rw [pop_of_closed ih]
    exact ih
  | push response _ ih => exact ih
  | pushTimeouts n _ ih => exact ih
  | close => rfl

end Connection

namespace Hub

/-- Whether a hub was closed. -/
def Shut (h : Hub) : Prop := h.isOpen = false

/-- What the operations of a hub can make of it, one after the other. -/
inductive Reaches (h : Hub) : Hub → Prop
  | refl : Reaches h h
  | emit {k : Hub} (e : Event) (hk : h.Reaches k) : Reaches h (k.emit e)
  | openFeed {k : Hub} (hk : h.Reaches k) : Reaches h k.openFeed.2
  | takeAll {k : Hub} (n : Nat) (hk : h.Reaches k) : Reaches h (k.takeAll n).2
  | dropFeed {k : Hub} (n : Nat) (hk : h.Reaches k) : Reaches h (k.dropFeed n)
  | subscribe {k : Hub} (channel : String) (hk : h.Reaches k) : Reaches h (k.subscribe channel).2
  | changeTopology {k : Hub} (hk : h.Reaches k) : Reaches h k.changeTopology
  | close {k : Hub} (hk : h.Reaches k) : Reaches h k.close

theorem Reaches.shut {h k : Hub} (hk : h.Reaches k) (closed : h.Shut) : k.Shut := by
  induction hk with
  | refl => exact closed
  | subscribe channel _ ih =>
    rw [subscribe_of_closed ih]
    exact ih
  | emit e _ ih => exact ih
  | openFeed _ ih => exact ih
  | takeAll n _ ih => exact ih
  | dropFeed n _ ih => exact ih
  | changeTopology _ ih => exact ih
  | close => rfl

end Hub

namespace Transport

variable (t : Transport) (lane lane' : Lane) (c : Connection)

theorem connection_withConnection :
    (t.withConnection lane c).connection lane'
      = if lane' = lane then c else t.connection lane' := by
  cases lane <;> cases lane' <;> rfl

theorem isShutDown_withConnection : (t.withConnection lane c).isShutDown = t.isShutDown := by
  cases lane <;> rfl

theorem pubSubs_withConnection : (t.withConnection lane c).pubSubs = t.pubSubs := by
  cases lane <;> rfl

theorem connection_shutDown : t.shutDown.connection lane = t.connection lane := by
  cases lane <;> rfl

end Transport

end Memory

/-- Whether an act does to its surroundings only what `R` allows. -/
def Act.Within {σ ε α : Type} (R : σ → σ → Prop) (act : Act σ ε α) : Prop := ∀ s, R s (act s).2

/-! ## Publish/subscribe connections -/

/-- Whether a context was shut down and has no task left. -/
def Dispatch.Stopped {τ : Type} (d : Dispatch τ) : Prop := d.accepting = false ∧ d.tasks = []

/-- Nothing happens any more on a context that is stopped. -/
theorem Dispatch.Stopped.settle {σ τ : Type} {d : Dispatch τ} (h : d.Stopped) (c : Conduct σ τ)
    (steps : Nat) (world : σ) : Dispatch.settle c steps d world = (d, world) := by
  refine settle_of_idle ?_ steps
  simp [step?, isDue, h.2]

namespace PubSub.Connection

variable {ω α : Type} {p : Connection ω}

/-- Whether a connection is closed and its dispatch context stopped. -/
def Ended (p : Connection ω) : Prop := p.hub.Shut ∧ p.dispatch.Stopped

theorem stopped_stop (p : Connection ω) (shared : Shared ω) :
    (p.stop shared).1.dispatch.Stopped := ⟨rfl, rfl⟩

/-- Shutting the context down drops feeds, which neither opens nor closes the hub. -/
theorem isOpen_stop (p : Connection ω) (shared : Shared ω) :
    (p.stop shared).1.hub.isOpen = p.hub.isOpen := by
  have hfold (tasks : List (Listener ω)) (w : World ω) :
      (tasks.foldl (fun w l => (Listener.conduct ω).drop l w) w).hub.isOpen = w.hub.isOpen := by
    induction tasks generalizing w with
    | nil => rfl
    | cons l tasks ih => exact ih _
  exact hfold p.dispatch.tasks (p.world shared)

theorem Ended.stop (h : p.Ended) (shared : Shared ω) : (p.stop shared).1.Ended :=
  ⟨(isOpen_stop p shared).trans h.1, stopped_stop p shared⟩

theorem Ended.attach (h : p.Ended) (listener : Nat → Listener ω) :
    (p.attach listener).2.Ended := by
  simp only [Connection.attach, Dispatch.spawn_of_stopped h.2.1]
  exact h

theorem Ended.settle (h : p.Ended) (steps : Nat) (shared : Shared ω) :
    (p.settle steps shared).1.Ended := by
  unfold Connection.settle
  rw [h.2.settle]
  exact h

/-- A command that puts operations of the hub together does not open it again. -/
theorem Ended.run (h : p.Ended) (shared : Shared ω) {work : Nat → Act Memory.Hub Cause α}
    (hw : ∀ n, (work n).Within Memory.Hub.Reaches) : (p.run shared work).2.1.Ended := by
  have hkeeps (n : Nat) : Act.Keeps Memory.Hub.Shut (fun _ => True) (Guard.reported work n) :=
    fun s hs => ⟨trivial, (hw n s).shut hs⟩
  obtain ⟨-, hub⟩ := Guard.keeps_run (fun _ => trivial) shared.guard hkeeps
    (fun _ _ hs => hs) h.1
  exact ⟨hub, h.2⟩

theorem Ended.driven (h : p.Ended) {act : Memory.Hub → Memory.Hub}
    (ha : ∀ hub : Memory.Hub, hub.Reaches (act hub)) : (p.driven act).Ended :=
  ⟨(ha p.hub).shut h.1, h.2⟩

end PubSub.Connection

/-! ## Clients -/

namespace Client

variable {ω α : Type} {c c' c'' : Client ω}

/-- Whether a thing is closed. -/
def Closed (c : Client ω) : Closing → Prop
  | .connection lane => (c.transport.connection lane).Shut
  | .pubSub number => ∀ p ∈ c.connections[number]?, p.hub.Shut
  | .dispatch number => ∀ p ∈ c.connections[number]?, p.dispatch.Stopped
  | .transport => c.transport.isShutDown = true

/-- Whether everything is closed. -/
def Down (c : Client ω) : Prop := ∀ x, c.Closed x

section Changes

variable (c) (number : Nat)
  (change : PubSub.Connection ω → PubSub.Shared ω → PubSub.Connection ω × PubSub.Shared ω)

theorem changePubSub_eq : ∃ shared, c.changePubSub number change =
    { c with
      connections := c.connections.modify number fun p => (change p c.shared).1
      shared } := by
  unfold changePubSub
  cases hp : c.connections[number]? with
  | none =>
    refine ⟨c.shared, ?_⟩
    rw [List.modify_eq_self (List.getElem?_eq_none_iff.mp hp)]
  | some p =>
    refine ⟨(change p c.shared).2, ?_⟩
    have hset : c.connections.set number (change p c.shared).1
        = c.connections.modify number fun p => (change p c.shared).1 := by
      refine List.ext_getElem? fun m => ?_
      rw [List.getElem?_set', List.getElem?_modify]
      split
      · rename_i hm
        rw [← hm, hp]
        rfl
      · simp
    simp only [hset]

/-- What is so of a connection afterwards was so of what it was changed from. -/
theorem forall_getElem?_changePubSub (R : PubSub.Connection ω → Prop) (m : Nat) :
    (∀ p ∈ (c.changePubSub number change).connections[m]?, R p) ↔
      ∀ p ∈ c.connections[m]?, R (if number = m then (change p c.shared).1 else p) := by
  obtain ⟨shared, heq⟩ := changePubSub_eq c number change
  simp only [heq, List.getElem?_modify]
  cases c.connections[m]? with
  | none => simp
  | some p => split <;> simp

end Changes

/-! ### Closing -/

theorem closed_close_connection (c : Client ω) (lane : Memory.Lane) (x : Closing) :
    (c.close (.connection lane)).Closed x ↔ x = .connection lane ∨ c.Closed x := by
  cases x with
  | connection lane' =>
    have hconn : (c.close (.connection lane)).transport.connection lane'
        = if lane' = lane then (c.transport.connection lane).close
          else c.transport.connection lane' := c.transport.connection_withConnection ..
    simp only [Closed, hconn, Closing.connection.injEq]
    split
    · simp [*, Memory.Connection.Shut, Memory.Connection.close]
    · simp [*]
  | pubSub number => simp [close, Closed, Client.driven]
  | dispatch number => simp [close, Closed, Client.driven]
  | transport =>
    have hdown : (c.close (.connection lane)).transport.isShutDown = c.transport.isShutDown :=
      c.transport.isShutDown_withConnection ..
    simp [Closed, hdown]

theorem closed_close_pubSub (c : Client ω) (number : Nat) (x : Closing) :
    (c.close (.pubSub number)).Closed x ↔ x = .pubSub number ∨ c.Closed x := by
  obtain ⟨shared, heq⟩ := c.changePubSub_eq number fun p shared => (p.driven .close, shared)
  cases x with
  | connection lane => simp [close, Closed, heq]
  | transport => simp [close, Closed, heq]
  | pubSub m =>
    simp only [close, Closed, forall_getElem?_changePubSub, Closing.pubSub.injEq]
    split
    · rename_i hm
      exact iff_of_true (fun _ _ => rfl) (.inl hm.symm)
    · rename_i hm
      simp [Ne.symm hm]
  | dispatch m =>
    simp only [close, Closed, forall_getElem?_changePubSub]
    split <;> simp [PubSub.Connection.driven]

theorem closed_close_dispatch (c : Client ω) (number : Nat) (x : Closing) :
    (c.close (.dispatch number)).Closed x ↔ x = .dispatch number ∨ c.Closed x := by
  obtain ⟨shared, heq⟩ := c.changePubSub_eq number fun p shared => p.stop shared
  cases x with
  | connection lane => simp [close, Closed, heq]
  | transport => simp [close, Closed, heq]
  | pubSub m =>
    simp only [close, Closed, forall_getElem?_changePubSub]
    split <;> simp [Memory.Hub.Shut, PubSub.Connection.isOpen_stop]
  | dispatch m =>
    simp only [close, Closed, forall_getElem?_changePubSub, Closing.dispatch.injEq]
    split
    · rename_i hm
      exact iff_of_true (fun p _ => p.stopped_stop _) (.inl hm.symm)
    · rename_i hm
      simp [Ne.symm hm]

theorem closed_close_transport (c : Client ω) (x : Closing) :
    (c.close .transport).Closed x ↔ x = .transport ∨ c.Closed x := by
  cases x with
  | connection lane =>
    have hconn : (c.close .transport).transport.connection lane = c.transport.connection lane :=
      c.transport.connection_shutDown lane
    simp [Closed, hconn]
  | pubSub number => simp [close, Closed, Client.driven]
  | dispatch number => simp [close, Closed, Client.driven]
  | transport => exact iff_of_true rfl (.inl rfl)

/-- **Closing one thing closes that thing and no other.** -/
theorem closed_close_iff (c : Client ω) (x y : Closing) :
    (c.close x).Closed y ↔ y = x ∨ c.Closed y := by
  cases x with
  | connection lane => exact closed_close_connection c lane y
  | pubSub number => exact closed_close_pubSub c number y
  | dispatch number => exact closed_close_dispatch c number y
  | transport => exact closed_close_transport c y

/-- Closes some things, one after the other. -/
abbrev closeAll (xs : List Closing) (c : Client ω) : Client ω := (facilities ω).closeAll xs c

theorem closed_closeAll_iff (xs : List Closing) (c : Client ω) (x : Closing) :
    (c.closeAll xs).Closed x ↔ x ∈ xs ∨ c.Closed x := by
  induction xs generalizing c with
  | nil => simp [Facilities.closeAll]
  | cons y xs ih =>
    rw [closeAll, Facilities.closeAll, List.foldl_cons]
    refine (ih (c.close y)).trans ?_
    rw [closed_close_iff, List.mem_cons, or_left_comm, or_assoc]

/-- Closing everything leaves nothing open. -/
theorem down_closeAll {numbers : List Nat} (h : ∀ n < c.connections.length, n ∈ numbers) :
    (c.closeAll (closingOrder numbers)).Down := by
  have hnone {n : Nat} (hn : ¬n < c.connections.length) : c.connections[n]? = none :=
    List.getElem?_eq_none_iff.mpr (Nat.le_of_not_lt hn)
  intro x
  refine (closed_closeAll_iff ..).mpr ?_
  cases x with
  | connection lane => cases lane <;> simp [closingOrder]
  | transport => simp [closingOrder]
  | pubSub n =>
    by_cases hn : n < c.connections.length
    · exact .inl (by simp [closingOrder, recordOrder, h n hn])
    · exact .inr (by simp [Closed, hnone hn])
  | dispatch n =>
    by_cases hn : n < c.connections.length
    · exact .inl (by simp [closingOrder, recordOrder, h n hn])
    · exact .inr (by simp [Closed, hnone hn])

/-! ### What a use keeps -/

/-- **What a use of a client keeps**: the transport is not asked for a connection, the client
neither registers one nor is it shut down, and where everything was closed everything still is. -/
structure Continues (c c' : Client ω) : Prop where
  name : c'.name = c.name
  registry : c'.registry = c.registry
  length : c'.connections.length = c.connections.length
  pubSubs : c'.transport.pubSubs = c.transport.pubSubs
  down : c.Down → c'.Down

theorem Continues.refl (c : Client ω) : c.Continues c := ⟨rfl, rfl, rfl, rfl, id⟩

theorem Continues.trans (h : c.Continues c') (h' : c'.Continues c'') : c.Continues c'' where
  name := h'.name.trans h.name
  registry := h'.registry.trans h.registry
  length := h'.length.trans h.length
  pubSubs := h'.pubSubs.trans h.pubSubs
  down hd := h'.down (h.down hd)

theorem Down.ended (h : c.Down) {number : Nat} {p : PubSub.Connection ω}
    (hp : p ∈ c.connections[number]?) : p.Ended :=
  ⟨h (.pubSub number) p hp, h (.dispatch number) p hp⟩

/-- Closed is what has its parts closed, whatever else may have changed. -/
theorem Down.of_eq (h : c.Down)
    (hlane : ∀ lane, c'.transport.connection lane = c.transport.connection lane)
    (htransport : c'.transport.isShutDown = c.transport.isShutDown)
    (hconnections : c'.connections = c.connections) : c'.Down := by
  have hclosed (x : Closing) : c'.Closed x ↔ c.Closed x := by
    cases x <;> simp only [Closed, hlane, htransport, hconnections]
  exact fun x => (hclosed x).mpr (h x)

/-- Changes of a connection are uses if they leave one that has ended as it should be. -/
theorem continues_changePubSub (c : Client ω) (number : Nat)
    {change : PubSub.Connection ω → PubSub.Shared ω → PubSub.Connection ω × PubSub.Shared ω}
    (h : ∀ (p : PubSub.Connection ω) (shared : PubSub.Shared ω),
      p.Ended → (change p shared).1.Ended) :
    c.Continues (c.changePubSub number change) := by
  obtain ⟨shared, heq⟩ := c.changePubSub_eq number change
  -- the changed connection has ended by assumption, every other one is as before
  have hended (hd : c.Down) (m : Nat) :
      ∀ p ∈ (c.changePubSub number change).connections[m]?, p.Ended := by
    refine (forall_getElem?_changePubSub ..).mpr fun p hp => ?_
    split
    · exact h p c.shared (hd.ended hp)
    · exact hd.ended hp
  refine ⟨?_, ?_, ?_, ?_, fun hd x => ?_⟩
  · rw [heq]
  · rw [heq]
  · rw [heq, List.length_modify]
  · rw [heq]
  · cases x with
    | connection lane =>
      rw [heq]
      exact hd (.connection lane)
    | pubSub m => exact fun p hp => (hended hd m p hp).1
    | dispatch m => exact fun p hp => (hended hd m p hp).2
    | transport =>
      rw [heq]
      exact hd .transport

theorem continues_changed (c : Client ω) (number : Nat)
    {act : PubSub.Connection ω → PubSub.Connection ω}
    (h : ∀ p : PubSub.Connection ω, p.Ended → (act p).Ended) :
    c.Continues (c.changePubSub number fun p shared => (act p, shared)) :=
  c.continues_changePubSub number fun p _ => h p

/-- Listeners that are let run do nothing on a client that is closed: there are none. -/
theorem continues_settle (steps : Nat) (c : Client ω) : c.Continues (c.settle steps) := by
  have hfold (numbers : List Nat) (c : Client ω) : c.Continues (numbers.foldl
      (fun c number => c.changePubSub number fun p shared => p.settle steps shared) c) := by
    induction numbers generalizing c with
    | nil => exact .refl c
    | cons number numbers ih =>
      exact (c.continues_changePubSub number fun _ shared hp => hp.settle steps shared).trans (ih _)
  exact hfold _ c

/-- The client after a call on a command connection, which leaves this guard and this connection. -/
def leave (c : Client ω) (lane : Memory.Lane) (guard : Guard) (connection : Memory.Connection) :
    Client ω :=
  { c with transport := c.transport.withConnection lane connection }.withGuard guard

theorem continues_leave (c : Client ω) {lane : Memory.Lane} (guard : Guard)
    {connection : Memory.Connection}
    (h : (c.transport.connection lane).Shut → connection.Shut) :
    c.Continues (c.leave lane guard connection) := by
  refine ⟨rfl, rfl, rfl, c.transport.pubSubs_withConnection .., fun hd x => ?_⟩
  cases x with
  | connection lane' =>
    have hconn : (c.leave lane guard connection).transport.connection lane'
        = if lane' = lane then connection else c.transport.connection lane' :=
      c.transport.connection_withConnection ..
    simp only [Closed, hconn]
    split
    · exact h (hd (.connection lane))
    · exact hd (.connection lane')
  | pubSub number => exact hd (.pubSub number)
  | dispatch number => exact hd (.dispatch number)
  | transport => exact (c.transport.isShutDown_withConnection ..).trans (hd .transport)

theorem continues_driven (c : Client ω) (lane : Memory.Lane)
    {act : Memory.Connection → Memory.Connection}
    (ha : ∀ connection : Memory.Connection, connection.Reaches (act connection)) :
    c.Continues (c.driven (·.driven lane act)) :=
  c.continues_leave c.guard (ha _).shut

theorem continues_close (c : Client ω) (x : Closing) : c.Continues (c.close x) := by
  cases x with
  | connection lane => exact c.continues_driven lane fun _ => .close .refl
  | pubSub number =>
    refine c.continues_changed number ?_
    exact fun _ hp => hp.driven fun _ => .close .refl
  | dispatch number => exact c.continues_changePubSub number fun _ shared hp => hp.stop shared
  | transport =>
    exact ⟨rfl, rfl, rfl, rfl, fun hd x => (closed_close_transport c x).mpr (.inr (hd x))⟩

theorem continues_closeAll (xs : List Closing) (c : Client ω) : c.Continues (c.closeAll xs) := by
  induction xs generalizing c with
  | nil => exact .refl c
  | cons x xs ih => exact (c.continues_close x).trans (ih _)

/-! ### Commands -/

section Commands

variable {Q : Except Fault α → Prop} (hq : ∀ rejection, Q (.error (.circuitOpen rejection)))

include hq

/-- What a command comes to that is run to its end. -/
theorem keeps_run (c : Client ω) (lane : Memory.Lane) {work : Nat → Act Memory.Connection Cause α}
    (hw : ∀ n, Act.Keeps Memory.Connection.Shut Q (Act.mapError Fault.ofCause (work n))) :
    ∃ guard connection, (c.run lane work).2 = c.leave lane guard connection ∧
      ((c.transport.connection lane).Shut →
        Q (c.run lane work).1.result ∧ connection.Shut) :=
  ⟨_, _, rfl, fun h => Guard.keeps_run hq c.guard hw (fun _ _ hs => hs) h⟩

/-- What a stream comes to whose items are collected. -/
theorem keeps_collect (c : Client ω) (lane : Memory.Lane)
    {subscriptions : Nat → Script Memory.Connection Cause α}
    (hs : ∀ n, (subscriptions n).All fun run =>
      Act.Keeps Memory.Connection.Shut Q (Act.mapError Fault.ofCause run)) (wanted polls : Nat) :
    ∃ guard connection,
      (c.collect lane subscriptions wanted polls).2.2 = c.leave lane guard connection ∧
      ((c.transport.connection lane).Shut →
        (∀ item ∈ (c.collect lane subscriptions wanted polls).1, Q item) ∧ connection.Shut) := by
  have hscript := Script.keeps_source Memory.Connection.Shut Q
  have hsource (now : Instant) := Taken.keeps_source (Guard.keeps_sourceOf hq hscript now)
  have hstart : Retrying.Keeps (Script.All (Act.Keeps Memory.Connection.Shut Q))
      (Guard.stream subscriptions).inner :=
    ⟨fun n => Script.all_mapError.mpr (hs n), nofun⟩
  refine ⟨_, _, rfl, fun h => ?_⟩
  obtain ⟨hitems, hleft, h'⟩ := keeps_drain hsource polls .zero
    (t := ⟨wanted, Guard.stream subscriptions⟩) hstart
    (s := (c.guard, c.transport.connection lane)) h
  exact ⟨hitems, (hsource _).drop hleft _ h'⟩

end Commands

end Client

end ClusterGuard
