import ClusterGuard.Proofs.Memory.Feeds

/-!
# Listeners that are forgotten late

A driver need not notice at once that a stream was dropped. The `Board` keeps a list of listeners
and a mailbox for every stream that was ever opened. To drop a stream is to mark its mailbox; its
listener stays in the list until the next event cannot be sent to it. So the list gets shorter while
an event is being delivered to it, and a close empties it.

None of this can be seen: a board `Shows` a hub, which forgets a stream as soon as it is dropped.

Results:
* `deliver_fst`, `getElem?_deliver`: what delivering to a list of listeners comes to.
* `shows_act`, **`shows_run`**: whatever is done, the board shows the hub.
-/

namespace ClusterGuard.Memory

/-- What a driver keeps for a stream. -/
structure Mailbox where
  queue : List Event := []
  /-- Whether nobody reads it any more. -/
  dropped : Bool := false

/-- A publish/subscribe connection with a list of listeners. -/
structure Board where
  isOpen : Bool := true
  subscriptions : List String := []
  /-- The streams that are sent every event, and perhaps some that were dropped. -/
  listeners : List Nat := []
  /-- The mailboxes of all streams, by their numbers. -/
  mailboxes : List Mailbox := []

namespace Board

/-- Whether a stream is there and was not dropped. -/
def alive (boxes : List Mailbox) (n : Nat) : Bool := (boxes[n]?).any (!·.dropped)

/-- Sends an event to a stream, and tells whether anybody may hear of it. -/
def send (e : Event) (n : Nat) (boxes : List Mailbox) : Bool × List Mailbox :=
  if alive boxes n then
    (true, boxes.modify n fun box => { box with queue := box.queue ++ [e] })
  else (false, boxes)

/-- Sends an event to some listeners, one after the other, and forgets those that do not hear it. -/
def deliver (e : Event) : List Nat → List Mailbox → List Nat × List Mailbox
  | [], boxes => ([], boxes)
  | n :: ns, boxes =>
    let (heard, boxes) := send e n boxes
    let (ns, boxes) := deliver e ns boxes
    (if heard then n :: ns else ns, boxes)

/-- Delivers an event. -/
def emit (e : Event) (b : Board) : Board :=
  let (listeners, mailboxes) := deliver e b.listeners b.mailboxes
  { b with listeners, mailboxes }

/-- The board after one thing was done with it. -/
def act (op : Hub.Op) (b : Board) : Board :=
  match op with
  | .events =>
    { b with
      listeners := if b.isOpen then b.listeners ++ [b.mailboxes.length] else b.listeners
      mailboxes := b.mailboxes ++ [{}] }
  | .subscribe channel =>
    if b.isOpen then
      let subscriptions := b.subscriptions ++ [channel]
      { b with subscriptions }.emit (.subscribed channel subscriptions.length)
    else b
  | .publish channel text => b.emit (.message channel text)
  | .changeTopology => { b with subscriptions := [] }.emit .topologyChanged
  | .close => { b with isOpen := false, listeners := [] }
  | .read n => { b with mailboxes := b.mailboxes.modify n fun box => { box with queue := [] } }
  | .drop n => { b with mailboxes := b.mailboxes.modify n fun box => { box with dropped := true } }

/-- The feed that a stream looks like, unless it was dropped. -/
def feed? (n : Nat) (b : Board) : Option Feed :=
  (b.mailboxes[n]?).bind fun box =>
    if box.dropped then none
    else some { number := n, queue := box.queue, attached := b.listeners.contains n }

/-! ## Delivering -/

variable {e : Event} {n : Nat} {ns : List Nat} {boxes : List Mailbox} {b : Board} {h : Hub}

theorem send_fst (e : Event) (n : Nat) (boxes : List Mailbox) :
    (send e n boxes).1 = alive boxes n := by
  unfold send
  split
  · exact Eq.symm ‹_›
  · exact (Bool.eq_false_iff.mpr ‹_›).symm

/-- A mailbox gets the events that are sent to it, unless it was dropped. -/
theorem getElem?_send (e : Event) (n : Nat) (boxes : List Mailbox) (m : Nat) :
    (send e n boxes).2[m]? = (boxes[m]?).map fun box =>
      if m = n ∧ box.dropped = false then { box with queue := box.queue ++ [e] } else box := by
  unfold send alive
  by_cases hm : m = n
  · subst hm
    cases hbox : boxes[m]? with
    | none => simp [hbox]
    | some box => cases hd : box.dropped <;> simp [hbox, hd]
  · have hself (box : Mailbox) : (if m = n ∧ box.dropped = false
        then { box with queue := box.queue ++ [e] } else box) = box := if_neg fun h => hm h.1
    simp only [hself, Option.map_id']
    split
    · simp [Ne.symm hm]
    · rfl

/-- Nobody drops a stream while an event is delivered. -/
theorem alive_send (e : Event) (n : Nat) (boxes : List Mailbox) :
    alive (send e n boxes).2 = alive boxes := by
  funext m
  unfold alive
  rw [getElem?_send]
  cases boxes[m]? with
  | none => rfl
  | some box => by_cases h : m = n ∧ box.dropped = false <;> simp [h]

/-- **The listeners that remain** are those that were not dropped. -/
theorem deliver_fst (e : Event) (ns : List Nat) (boxes : List Mailbox) :
    (deliver e ns boxes).1 = ns.filter (alive boxes) := by
  induction ns generalizing boxes with
  | nil => rfl
  | cons n ns ih =>
    simp only [deliver, ih, alive_send, send_fst]
    cases h : alive boxes n <;> simp [h]

/-- **Every listener that was not dropped** gets the event once. -/
theorem getElem?_deliver (e : Event) {ns : List Nat} (hns : ns.Nodup) (boxes : List Mailbox)
    (m : Nat) :
    (deliver e ns boxes).2[m]? = (boxes[m]?).map fun box =>
      if m ∈ ns ∧ box.dropped = false then { box with queue := box.queue ++ [e] } else box := by
  induction ns generalizing boxes with
  | nil => simp [deliver]
  | cons n ns ih =>
    obtain ⟨hn, hns⟩ := List.nodup_cons.mp hns
    simp only [deliver, ih hns, getElem?_send]
    cases boxes[m]? with
    | none => rfl
    | some box =>
      by_cases hm : m = n
      · subst hm
        cases hd : box.dropped <;> simp [hn, hd]
      · cases hd : box.dropped <;> simp [hm, hd]

theorem length_deliver (e : Event) (ns : List Nat) (boxes : List Mailbox) :
    (deliver e ns boxes).2.length = boxes.length := by
  induction ns generalizing boxes with
  | nil => rfl
  | cons n ns ih =>
    have hsend : (send e n boxes).2.length = boxes.length := by
      unfold send
      split <;> simp
    simp only [deliver, ih, hsend]

/-! ## What can be seen -/

/-- Whether a board looks like a hub to everybody who uses it. -/
structure Shows (b : Board) (h : Hub) : Prop where
  isOpen : h.isOpen = b.isOpen
  subscriptions : h.subscriptions = b.subscriptions
  opened : h.opened = b.mailboxes.length
  feeds : ∀ n, h.feed? n = b.feed? n
  /-- No stream is a listener twice, and only streams that were opened are. -/
  nodup : b.listeners.Nodup
  listeners : ∀ n ∈ b.listeners, n < b.mailboxes.length

theorem feed?_of_length_le (hn : b.mailboxes.length ≤ n) : b.feed? n = none := by
  simp [feed?, List.getElem?_eq_none hn]

/-- **An event looks the same** on both. -/
theorem Shows.emit (hb : b.Shows h) (e : Event) : (b.emit e).Shows (h.emit e) where
  isOpen := hb.isOpen
  subscriptions := hb.subscriptions
  opened := by
    simp only [Board.emit, length_deliver]
    exact hb.opened
  feeds n := by
    rw [Hub.feed?_emit, hb.feeds n]
    simp only [feed?, Board.emit, deliver_fst, getElem?_deliver e hb.nodup]
    cases hbox : b.mailboxes[n]? with
    | none => rfl
    | some box =>
      obtain ⟨queue, dropped⟩ := box
      cases dropped with
      | true => simp
      | false =>
        by_cases hn : n ∈ b.listeners
        · simp [hn, alive, hbox, Feed.push]
        · simp [hn, Feed.push]
  nodup := by
    simp only [Board.emit, deliver_fst]
    exact hb.nodup.filter _
  listeners n hn := by
    simp only [Board.emit, deliver_fst, List.mem_filter] at hn
    simp only [Board.emit, length_deliver]
    exact hb.listeners n hn.1

/-- Taking the events of a mailbox, or marking it as dropped. -/
theorem Shows.modify (hb : b.Shows h) (n : Nat) {f : Mailbox → Mailbox} {h' : Hub}
    (hsame : h'.isOpen = h.isOpen ∧ h'.subscriptions = h.subscriptions ∧ h'.opened = h.opened)
    (hother : ∀ m, m ≠ n → h'.feed? m = h.feed? m)
    (hself : h'.feed? n = { b with mailboxes := b.mailboxes.modify n f }.feed? n) :
    Shows { b with mailboxes := b.mailboxes.modify n f } h' where
  isOpen := hsame.1.trans hb.isOpen
  subscriptions := hsame.2.1.trans hb.subscriptions
  opened := by simp [hsame.2.2, hb.opened]
  feeds m := by
    by_cases hm : m = n
    · rw [hm, hself]
    · rw [hother m hm, hb.feeds m]
      simp [feed?, Ne.symm hm]
  nodup := hb.nodup
  listeners m hm := by
    simp only [List.length_modify]
    exact hb.listeners m hm

theorem Shows.events (hb : b.Shows h) : (b.act .events).Shows (h.act .events) where
  isOpen := hb.isOpen
  subscriptions := hb.subscriptions
  opened := by simp [act, Hub.act, Hub.openFeed, hb.opened]
  feeds m := by
    simp only [Hub.act, Hub.feed?_openFeed, hb.feeds m, hb.opened, hb.isOpen]
    have hnone : b.mailboxes.length ∉ b.listeners := fun hmem =>
      Nat.lt_irrefl _ (hb.listeners _ hmem)
    rcases Nat.lt_trichotomy m b.mailboxes.length with hlt | rfl | hgt
    · have hne : b.mailboxes.length ≠ m := Nat.ne_of_gt hlt
      cases ho : b.isOpen <;>
        simp [feed?, act, ho, List.getElem?_append_left hlt, hne, Ne.symm hne]
    · rw [feed?_of_length_le (Nat.le_refl _)]
      cases ho : b.isOpen <;> simp [feed?, act, ho, hnone]
    · rw [feed?_of_length_le (Nat.le_of_lt hgt), feed?_of_length_le (by simp [act]; omega)]
      simp [Nat.ne_of_lt hgt]
  nodup := by
    simp only [act]
    split
    · rw [List.nodup_append]
      refine ⟨hb.nodup, List.pairwise_singleton _ _, fun n hn m hm => ?_⟩
      rw [List.mem_singleton.mp hm]
      exact Nat.ne_of_lt (hb.listeners n hn)
    · exact hb.nodup
  listeners n hn := by
    have hmem : n ∈ b.listeners ∨ n = b.mailboxes.length := by
      simp only [act] at hn
      split at hn
      · simpa using hn
      · exact .inl hn
    simp only [act, List.length_append, List.length_singleton]
    rcases hmem with hmem | rfl
    · exact Nat.lt_succ_of_lt (hb.listeners n hmem)
    · exact Nat.lt_succ_self _

/-- The subscriptions are the same, whatever they become. -/
theorem Shows.withSubscriptions (hb : b.Shows h) (subscriptions : List String) :
    { b with subscriptions }.Shows { h with subscriptions } :=
  ⟨hb.isOpen, rfl, hb.opened, hb.feeds, hb.nodup, hb.listeners⟩

/-- **Whatever is done**, the board shows the hub. -/
theorem shows_act (hb : b.Shows h) (op : Hub.Op) : (b.act op).Shows (h.act op) := by
  cases op with
  | events => exact hb.events
  | publish channel text => exact hb.emit _
  | changeTopology => exact (hb.withSubscriptions []).emit _
  | read n =>
    refine hb.modify n ⟨rfl, rfl, rfl⟩ (fun m hm => by simp [Hub.act, hm]) ?_
    simp only [Hub.act, Hub.feed?_takeAll, hb.feeds n]
    cases hbox : b.mailboxes[n]? with
    | none => simp [feed?, hbox]
    | some box => cases hd : box.dropped <;> simp [feed?, hbox, hd]
  | drop n =>
    refine hb.modify n ⟨rfl, rfl, rfl⟩ (fun m hm => by simp [Hub.act, hm]) ?_
    cases hbox : b.mailboxes[n]? with
    | none => simp [Hub.act, feed?, hbox]
    | some box => simp [Hub.act, feed?, hbox]
  | close =>
    refine ⟨rfl, hb.subscriptions, hb.opened, fun n => ?_, List.nodup_nil,
      fun _ hlistens => (List.not_mem_nil hlistens).elim⟩
    simp only [Hub.act, Hub.feed?_close, hb.feeds n]
    cases hbox : b.mailboxes[n]? with
    | none => simp [feed?, act, hbox]
    | some box => cases hd : box.dropped <;> simp [feed?, act, hbox, hd]
  | subscribe channel =>
    cases ho : b.isOpen with
    | true =>
      have ho' : h.isOpen = true := hb.isOpen.trans ho
      have hact : b.act (.subscribe channel) = _ := if_pos ho
      simp only [hact, Hub.act, Hub.subscribe_of_open ho', hb.subscriptions]
      exact (hb.withSubscriptions _).emit _
    | false =>
      have ho' : h.isOpen = false := hb.isOpen.trans ho
      simp only [act, ho, Hub.act, Hub.subscribe_of_closed ho']
      exact hb

/-- **A board shows a hub** after any operations. -/
theorem shows_run (ops : List Hub.Op) :
    (ops.foldl (fun b op => b.act op) ({} : Board)).Shows
      (ops.foldl (fun h op => h.act op) ({} : Hub)) := by
  suffices hrun : ∀ (b : Board) (h : Hub), b.Shows h →
      (ops.foldl (fun b op => b.act op) b).Shows (ops.foldl (fun h op => h.act op) h) from
    hrun {} {} ⟨rfl, rfl, rfl, fun _ => rfl, List.nodup_nil, nofun⟩
  induction ops with
  | nil => exact fun _ _ hb => hb
  | cons op ops ih => exact fun b h hb => ih _ _ (shows_act hb op)

end Board

end ClusterGuard.Memory
