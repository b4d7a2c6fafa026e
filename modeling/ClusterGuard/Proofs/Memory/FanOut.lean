import ClusterGuard.Proofs.Memory.Listeners
import Mathlib.Data.List.Induction

/-!
# Who hears of which events

Anybody who holds a hub may open streams, read and drop them, subscribe, publish, report a change of
the topology and close the hub, in any order. A `Session` is such a use of a hub together with what
an onlooker knows of it without looking into the hub: the events emitted, where they stood when each
stream was opened and when the hub was first closed, and what the readers were given.

Results:
* `Faithful`, `faithful_step`, `faithful_run`: what the hub holds for a reader is what the onlooker
  expects to be still to come.
* `due_run`, `due_of_late`: nothing is added after the first close.
* `apart_step`, `apart_run`: no stream depends on another one.
* **`events_fan_out`**: every stream gets the events emitted between its opening and the close, once
  and in order.
-/

namespace ClusterGuard.Memory

/-- A stream as its reader knows it. -/
structure Receiver where
  /-- How many events had been emitted when it was opened. -/
  since : Nat
  /-- The events its reader was given. -/
  received : List Event := []
  dropped : Bool := false

/-- A hub in use, and what an onlooker knows of it. -/
structure Session where
  hub : Hub := {}
  /-- The channels that were subscribed since the topology last changed. -/
  channels : List String := []
  /-- The events emitted, also those that nobody can hear of. -/
  emitted : List Event := []
  /-- How many events had been emitted when the hub was first closed. -/
  closedAt : Option Nat := none
  /-- The streams, by their numbers. -/
  receivers : List Receiver := []

namespace Session

/-- The session after an event was emitted. -/
def emit (s : Session) (e : Event) (hub : Hub) (channels : List String) : Session :=
  { s with hub, channels, emitted := s.emitted ++ [e] }

/-- The session after something that has changed a stream. -/
def change (s : Session) (n : Nat) (hub : Hub) (f : Receiver → Receiver) : Session :=
  { s with hub, receivers := s.receivers.modify n f }

/-- One thing is done with the hub. -/
def step (s : Session) : Hub.Op → Session
  | .events =>
    { s with
      hub := s.hub.openFeed.2
      receivers := s.receivers ++ [{ since := s.emitted.length }] }
  | .subscribe channel =>
    match s.hub.subscribe channel with
    | (.ok _, hub) =>
      s.emit (.subscribed channel hub.subscriptions.length) hub (s.channels ++ [channel])
    | (.error _, hub) => { s with hub }
  | .publish channel text =>
    s.emit (.message channel text) (s.hub.publish channel text) s.channels
  | .changeTopology => s.emit .topologyChanged s.hub.changeTopology []
  | .close =>
    { s with hub := s.hub.close, closedAt := s.closedAt.or (some s.emitted.length) }
  | .read n =>
    s.change n (s.hub.takeAll n).2 fun r =>
      { r with received := r.received ++ (s.hub.takeAll n).1 }
  | .drop n => s.change n (s.hub.dropFeed n) fun r => { r with dropped := true }

/-- The session after some operations. -/
def run (s : Session) (ops : List Hub.Op) : Session := ops.foldl step s

/-- The events that a stream is to get: those emitted after its opening and before the close. -/
def due (s : Session) (r : Receiver) : List Event :=
  (s.emitted.take (s.closedAt.getD s.emitted.length)).drop r.since

/-! ## What the hub holds -/

/-- Whether a stream has been given a part of what it is to get, and its feed holds the rest. -/
structure Served (s : Session) (n : Nat) (r : Receiver) : Prop where
  since_le : r.since ≤ s.emitted.length
  live : r.dropped = false → ∃ f, s.hub.feed? n = some f ∧ f.attached = s.hub.isOpen ∧
    r.received ++ f.queue = s.due r
  dropped : r.dropped = true → s.hub.feed? n = none ∧ r.received <+: s.due r

/-- Whether a hub holds what the onlooker expects. -/
structure Faithful (s : Session) : Prop where
  opened : s.hub.opened = s.receivers.length
  fresh : ∀ n, s.receivers.length ≤ n → s.hub.feed? n = none
  isOpen : s.hub.isOpen = s.closedAt.isNone
  closedAt_le : ∀ k, s.closedAt = some k → k ≤ s.emitted.length
  subscriptions : s.hub.subscriptions = s.channels
  served : ∀ n r, s.receivers[n]? = some r → s.Served n r

variable {s : Session} {r : Receiver} {n k : Nat}

/-- An event is to be heard of until the hub is closed. -/
theorem due_emit (hr : r.since ≤ s.emitted.length)
    (hk : ∀ k, s.closedAt = some k → k ≤ s.emitted.length) (e : Event) (hub : Hub)
    (channels : List String) :
    (s.emit e hub channels).due r = s.due r ++ if s.closedAt.isNone then [e] else [] := by
  unfold due emit
  cases hc : s.closedAt with
  | none => simp [List.take_of_length_le, List.drop_append_of_le_length hr]
  | some k => simp [List.take_append_of_le_length (hk k hc)]

/-- **An event that is emitted** reaches the feeds that are attached. -/
theorem faithful_emit (h : s.Faithful) {e : Event} {hub : Hub} {channels : List String}
    (hfeed : ∀ n, hub.feed? n = (s.hub.feed? n).map (·.push e)) (hopen : hub.isOpen = s.hub.isOpen)
    (hopened : hub.opened = s.hub.opened) (hchannels : hub.subscriptions = channels) :
    (s.emit e hub channels).Faithful where
  opened := hopened.trans h.opened
  fresh n hn := by
    have hnone : s.hub.feed? n = none := h.fresh n hn
    simp only [emit, hfeed, hnone, Option.map_none]
  isOpen := hopen.trans h.isOpen
  closedAt_le k hk := by
    have hle := h.closedAt_le k hk
    simp only [emit, List.length_append]
    omega
  subscriptions := hchannels
  served n r hr := by
    obtain ⟨hsince, hlive, hdropped⟩ := h.served n r hr
    have hdue := due_emit hsince h.closedAt_le e hub channels
    refine ⟨?_, fun hd => ?_, fun hd => ?_⟩
    · simp only [emit, List.length_append]
      omega
    · obtain ⟨f, hf, hattached, hheld⟩ := hlive hd
      refine ⟨f.push e, ?_, ?_, ?_⟩
      · simp only [emit, hfeed, hf, Option.map_some]
      · rw [f.attached_push e, hattached]
        exact hopen.symm
      · rw [f.queue_push e, hattached, h.isOpen, ← List.append_assoc, hheld, hdue]
    · obtain ⟨hnone, hpre⟩ := hdropped hd
      refine ⟨?_, ?_⟩
      · simp only [emit, hfeed, hnone, Option.map_none]
      · rw [hdue]
        exact hpre.trans (List.prefix_append ..)

/-- A stream that is opened is to get nothing yet. -/
theorem faithful_events (h : s.Faithful) : (s.step .events).Faithful where
  opened := by simp [step, Hub.openFeed, h.opened]
  fresh n hn := by
    simp only [step, List.length_append, List.length_singleton] at hn
    have hne : s.hub.opened ≠ n := by
      rw [h.opened]
      omega
    simp [step, h.fresh n (by omega), hne]
  isOpen := h.isOpen
  closedAt_le := h.closedAt_le
  subscriptions := h.subscriptions
  served n r hr := by
    rcases Nat.lt_trichotomy n s.receivers.length with hlt | rfl | hgt
    · have hr : s.receivers[n]? = some r := by
        rwa [step, List.getElem?_append_left hlt] at hr
      have hne : s.hub.opened ≠ n := by
        rw [h.opened]
        omega
      have hfeed : (s.step .events).hub.feed? n = s.hub.feed? n := by simp [step, hne]
      obtain ⟨hsince, hlive, hdropped⟩ := h.served n r hr
      refine ⟨hsince, ?_, ?_⟩
      · rw [hfeed]
        exact hlive
      · rw [hfeed]
        exact hdropped
    · obtain rfl : r = { since := s.emitted.length } := by simpa [step] using hr.symm
      refine ⟨Nat.le_refl _, fun _ => ?_, fun hd => by cases hd⟩
      refine ⟨{ number := s.hub.opened, attached := s.hub.isOpen }, ?_, rfl, ?_⟩
      · simp [step, h.fresh _ (Nat.le_refl _), h.opened]
      · refine (List.drop_of_length_le ?_).symm
        exact Nat.le_trans (List.length_take_le' ..) (Nat.le_refl _)
    · rw [step, List.getElem?_eq_none (by simp; omega)] at hr
      cases hr

/-- **What becomes of one stream** is seen at this stream only. -/
theorem faithful_change (h : s.Faithful) {n : Nat} {hub : Hub} {f : Receiver → Receiver}
    (hfeed : ∀ m, m ≠ n → hub.feed? m = s.hub.feed? m)
    (hnone : s.hub.feed? n = none → hub.feed? n = none)
    (hopened : hub.opened = s.hub.opened) (hopen : hub.isOpen = s.hub.isOpen)
    (hchannels : hub.subscriptions = s.hub.subscriptions)
    (hserved : ∀ r, s.receivers[n]? = some r → (s.change n hub f).Served n (f r)) :
    (s.change n hub f).Faithful where
  opened := by simp [change, hopened, h.opened]
  fresh m hm := by
    rw [change, List.length_modify] at hm
    by_cases hmn : m = n
    · rw [hmn]
      exact hnone (h.fresh n (hmn ▸ hm))
    · exact (hfeed m hmn).trans (h.fresh m hm)
  isOpen := hopen.trans h.isOpen
  closedAt_le := h.closedAt_le
  subscriptions := hchannels.trans h.subscriptions
  served m r hr := by
    simp only [change, List.getElem?_modify, Option.map_eq_map, Option.map_eq_some_iff] at hr
    obtain ⟨r', hr', rfl⟩ := hr
    by_cases hmn : n = m
    · subst hmn
      rw [if_pos rfl]
      exact hserved r' hr'
    · rw [if_neg hmn]
      obtain ⟨hsince, hlive, hdropped⟩ := h.served m r' hr'
      refine ⟨hsince, ?_, ?_⟩
      · simp only [change, hfeed m (Ne.symm hmn), hopen]
        exact hlive
      · simp only [change, hfeed m (Ne.symm hmn)]
        exact hdropped

theorem faithful_read (h : s.Faithful) (n : Nat) : (s.step (.read n)).Faithful := by
  have hself : (s.hub.takeAll n).2.feed? n
      = (s.hub.feed? n).map fun f => { f with queue := [] } := by simp
  refine faithful_change h (fun m hm => ?_) (fun hnone => ?_) rfl rfl rfl fun r hr => ?_
  · simp [hm]
  · rw [hself, hnone]
    rfl
  · obtain ⟨hsince, hlive, hdropped⟩ := h.served n r hr
    refine ⟨hsince, fun hd => ?_, fun hd => ?_⟩
    · obtain ⟨f, hf, hattached, hheld⟩ := hlive hd
      refine ⟨{ f with queue := [] }, ?_, hattached, ?_⟩
      · rw [change, hself, hf]
        rfl
      · rw [Hub.takeAll_fst, Hub.held_of_some hf, List.append_nil]
        exact hheld
    · obtain ⟨hnone, hpre⟩ := hdropped hd
      refine ⟨?_, ?_⟩
      · rw [change, hself, hnone]
        rfl
      · rw [Hub.takeAll_fst, Hub.held_of_none hnone, List.append_nil]
        exact hpre

theorem faithful_drop (h : s.Faithful) (n : Nat) : (s.step (.drop n)).Faithful := by
  refine faithful_change h (fun m hm => ?_) (fun _ => ?_) rfl rfl rfl fun r hr => ?_
  · simp [hm]
  · simp
  · obtain ⟨hsince, hlive, hdropped⟩ := h.served n r hr
    refine ⟨hsince, nofun, fun _ => ⟨by simp [change], ?_⟩⟩
    cases hd : r.dropped with
    | false =>
      obtain ⟨f, -, -, hheld⟩ := hlive hd
      exact ⟨f.queue, hheld⟩
    | true => exact (hdropped hd).2

/-- The first close, and no later one, fixes what is to be heard of. -/
theorem due_close (s : Session) (r : Receiver) : (s.step .close).due r = s.due r := by
  unfold due step
  cases s.closedAt <;> rfl

theorem faithful_close (h : s.Faithful) : (s.step .close).Faithful where
  opened := h.opened
  fresh n hn := by simp [step, h.fresh n hn]
  isOpen := by cases hc : s.closedAt <;> simp [step, hc, Hub.close]
  closedAt_le k hk := by
    cases hc : s.closedAt with
    | none =>
      obtain rfl : s.emitted.length = k := by simpa [step, hc] using hk
      exact Nat.le_refl _
    | some k' =>
      obtain rfl : k' = k := by simpa [step, hc] using hk
      exact h.closedAt_le k' hc
  subscriptions := h.subscriptions
  served n r hr := by
    obtain ⟨hsince, hlive, hdropped⟩ := h.served n r hr
    refine ⟨hsince, fun hd => ?_, fun hd => ?_⟩
    · obtain ⟨f, hf, -, hheld⟩ := hlive hd
      refine ⟨{ f with attached := false }, by simp [step, hf], rfl, ?_⟩
      rw [due_close]
      exact hheld
    · obtain ⟨hnone, hpre⟩ := hdropped hd
      rw [due_close]
      exact ⟨by simp [step, hnone], hpre⟩

/-- **What the hub holds** is what the onlooker expects, after every operation. -/
theorem faithful_step (h : s.Faithful) (op : Hub.Op) : (s.step op).Faithful := by
  cases op with
  | events => exact faithful_events h
  | publish channel text => exact faithful_emit h (fun _ => by simp) rfl rfl h.subscriptions
  | changeTopology => exact faithful_emit h (fun _ => by simp) rfl rfl rfl
  | close => exact faithful_close h
  | read n => exact faithful_read h n
  | drop n => exact faithful_drop h n
  | subscribe channel =>
    cases ho : s.hub.isOpen with
    | true =>
      simp only [step, Hub.subscribe_of_open ho]
      exact faithful_emit h (fun n => Hub.feed?_emit _ { s.hub with subscriptions := _ } n) rfl rfl
        (congrArg (· ++ [channel]) h.subscriptions)
    | false =>
      simp only [step, Hub.subscribe_of_closed ho]
      exact h

theorem faithful_run (h : s.Faithful) (ops : List Hub.Op) : (s.run ops).Faithful := by
  induction ops generalizing s with
  | nil => exact h
  | cons op ops ih => exact ih (faithful_step h op)

theorem faithful_new : ({} : Session).Faithful :=
  ⟨rfl, fun _ _ => rfl, rfl, nofun, rfl, nofun⟩

/-! ## After the close -/

/-- What stays of a session, whatever is done next. -/
structure Later (s t : Session) : Prop where
  emitted : s.emitted <+: t.emitted
  closedAt : ∀ k, s.closedAt = some k → t.closedAt = some k
  old : ∀ (n : Nat) (r : Receiver), s.receivers[n]? = some r →
    ∃ r' : Receiver, t.receivers[n]? = some r' ∧ r'.since = r.since
  new : ∀ (n : Nat) (r : Receiver), s.receivers.length ≤ n → t.receivers[n]? = some r →
    s.emitted.length ≤ r.since

theorem Later.refl (s : Session) : s.Later s where
  emitted := List.prefix_rfl
  closedAt _ hk := hk
  old n r hr := ⟨r, hr, rfl⟩
  new n r hn hr := by
    rw [List.getElem?_eq_none hn] at hr
    cases hr

variable {t : Session}

/-- An emission and a change of a stream leave the openings of the streams as they are. -/
theorem Later.change (h : s.Later t) (n : Nat) (hub : Hub) {f : Receiver → Receiver}
    (hf : ∀ r, (f r).since = r.since) : s.Later (t.change n hub f) where
  emitted := h.emitted
  closedAt := h.closedAt
  old m r hr := by
    obtain ⟨r', hr', hsince⟩ := h.old m r hr
    refine ⟨if n = m then f r' else r', ?_, ?_⟩
    · simp only [Session.change, List.getElem?_modify, hr']
      rfl
    · split
      · exact (hf r').trans hsince
      · exact hsince
  new m r hm hr := by
    simp only [Session.change, List.getElem?_modify, Option.map_eq_map, Option.map_eq_some_iff] at hr
    obtain ⟨r', hr', rfl⟩ := hr
    have hle := h.new m r' hm hr'
    split
    · rwa [hf]
    · exact hle

theorem Later.emit (h : s.Later t) (e : Event) (hub : Hub) (channels : List String) :
    s.Later (t.emit e hub channels) :=
  ⟨h.emitted.trans (List.prefix_append ..), h.closedAt, h.old, h.new⟩

theorem Later.step (h : s.Later t) (op : Hub.Op) : s.Later (t.step op) := by
  cases op with
  | publish channel text => exact h.emit ..
  | changeTopology => exact h.emit ..
  | read n => exact h.change n _ fun _ => rfl
  | drop n => exact h.change n _ fun _ => rfl
  | close =>
    refine ⟨h.emitted, fun k hk => ?_, h.old, h.new⟩
    simp [Session.step, h.closedAt k hk]
  | subscribe channel =>
    cases ho : t.hub.isOpen with
    | true =>
      simp only [Session.step, Hub.subscribe_of_open ho]
      exact h.emit ..
    | false =>
      simp only [Session.step, Hub.subscribe_of_closed ho]
      exact ⟨h.emitted, h.closedAt, h.old, h.new⟩
  | events =>
    refine ⟨h.emitted, h.closedAt, fun n r hr => ?_, fun n r hn hr => ?_⟩
    · obtain ⟨r', hr', hsince⟩ := h.old n r hr
      obtain ⟨hlt, -⟩ := List.getElem?_eq_some_iff.mp hr'
      exact ⟨r', (List.getElem?_append_left hlt).trans hr', hsince⟩
    · rcases Nat.lt_or_ge n t.receivers.length with hlt | hge
      · exact h.new n r hn ((List.getElem?_append_left hlt).symm.trans hr)
      · simp only [Session.step, List.getElem?_append_right hge] at hr
        obtain rfl := List.mem_singleton.mp (List.mem_of_getElem? hr)
        exact h.emitted.length_le

theorem later_run (s : Session) (ops : List Hub.Op) : s.Later (s.run ops) := by
  induction ops using List.reverseRecOn with
  | nil => exact .refl s
  | append_singleton ops op ih =>
    rw [run, List.foldl_append]
    exact ih.step op

/-- **Nothing is added after the close** to what a stream is to get. -/
theorem Later.due (h : s.Later t) (hclosed : s.closedAt = some k) (hk : k ≤ s.emitted.length)
    {r r' : Receiver} (hsince : r'.since = r.since) : t.due r' = s.due r := by
  obtain ⟨more, hmore⟩ := h.emitted
  simp [Session.due, h.closedAt k hclosed, hclosed, ← hmore, hsince,
    List.take_append_of_le_length hk]

/-- **A stream that is opened after the close** is to get nothing. -/
theorem Later.due_of_new (h : s.Later t) (hclosed : s.closedAt = some k)
    (hk : k ≤ s.emitted.length) (hr : s.emitted.length ≤ r.since) : t.due r = [] := by
  simp only [Session.due, h.closedAt k hclosed, Option.getD_some]
  refine List.drop_of_length_le ?_
  have hlength := List.length_take_le k t.emitted
  omega

/-! ## Other streams -/

/-- Whether two sessions differ in one stream at most. -/
structure Apart (n : Nat) (s t : Session) : Prop where
  isOpen : t.hub.isOpen = s.hub.isOpen
  subscriptions : t.hub.subscriptions = s.hub.subscriptions
  opened : t.hub.opened = s.hub.opened
  feeds : ∀ m, m ≠ n → t.hub.feed? m = s.hub.feed? m
  channels : t.channels = s.channels
  emitted : t.emitted = s.emitted
  closedAt : t.closedAt = s.closedAt
  length : t.receivers.length = s.receivers.length
  receivers : ∀ m, m ≠ n → t.receivers[m]? = s.receivers[m]?

theorem Apart.emit (h : Apart n s t) (e : Event) {hub hub' : Hub} {channels : List String}
    (hhub : ∀ m, hub.feed? m = (s.hub.feed? m).map (·.push e))
    (hhub' : ∀ m, hub'.feed? m = (t.hub.feed? m).map (·.push e))
    (hopen : hub'.isOpen = hub.isOpen) (hsubscriptions : hub'.subscriptions = hub.subscriptions)
    (hopened : hub'.opened = hub.opened) :
    Apart n (s.emit e hub channels) (t.emit e hub' channels) where
  isOpen := hopen
  subscriptions := hsubscriptions
  opened := hopened
  feeds m hm := by simp only [Session.emit, hhub, hhub', h.feeds m hm]
  channels := rfl
  emitted := congrArg (· ++ [e]) h.emitted
  closedAt := h.closedAt
  length := h.length
  receivers := h.receivers

theorem Apart.change (h : Apart n s t) {m : Nat} {hub hub' : Hub} {f f' : Receiver → Receiver}
    (hfeed : ∀ k, k ≠ n → hub'.feed? k = hub.feed? k) (hf : m ≠ n → f' = f)
    (hopen : hub'.isOpen = hub.isOpen) (hsubscriptions : hub'.subscriptions = hub.subscriptions)
    (hopened : hub'.opened = hub.opened) : Apart n (s.change m hub f) (t.change m hub' f') where
  isOpen := hopen
  subscriptions := hsubscriptions
  opened := hopened
  feeds := hfeed
  channels := h.channels
  emitted := h.emitted
  closedAt := h.closedAt
  length := by simp [Session.change, h.length]
  receivers k hk := by
    simp only [Session.change, List.getElem?_modify, h.receivers k hk]
    by_cases hm : m = k
    · rw [hf (hm ▸ hk)]
    · simp [hm]

/-- **No stream depends on another one.** -/
theorem Apart.step (h : Apart n s t) (op : Hub.Op) : Apart n (s.step op) (t.step op) := by
  cases op with
  | publish channel text =>
    rw [Session.step, Session.step, h.channels]
    exact h.emit _ (fun _ => by simp) (fun _ => by simp) h.isOpen h.subscriptions h.opened
  | changeTopology =>
    exact h.emit _ (fun _ => by simp) (fun _ => by simp) h.isOpen rfl h.opened
  | read m =>
    refine h.change (fun k hk => ?_) (fun hm => ?_) h.isOpen h.subscriptions h.opened
    · simp [h.feeds k hk]
    · rw [Hub.takeAll_fst, Hub.takeAll_fst, Hub.held, Hub.held, h.feeds m hm]
  | drop m =>
    exact h.change (fun k hk => by simp [h.feeds k hk]) (fun _ => rfl) h.isOpen h.subscriptions
      h.opened
  | close =>
    refine ⟨rfl, h.subscriptions, h.opened, fun m hm => ?_, h.channels, h.emitted, ?_, h.length,
      h.receivers⟩
    · simp [Session.step, h.feeds m hm]
    · simp only [Session.step, h.closedAt, h.emitted]
  | subscribe channel =>
    cases ho : s.hub.isOpen with
    | true =>
      have ho' : t.hub.isOpen = true := h.isOpen.trans ho
      simp only [Session.step, Hub.subscribe_of_open ho, Hub.subscribe_of_open ho', Hub.emit,
        h.subscriptions, h.channels]
      exact h.emit _ (fun m => Hub.feed?_emit _ { s.hub with subscriptions := _ } m)
        (fun m => Hub.feed?_emit _ { t.hub with subscriptions := _ } m) h.isOpen rfl h.opened
    | false =>
      have ho' : t.hub.isOpen = false := h.isOpen.trans ho
      simp only [Session.step, Hub.subscribe_of_closed ho, Hub.subscribe_of_closed ho']
      exact h
  | events =>
    refine ⟨h.isOpen, h.subscriptions, congrArg (· + 1) h.opened, fun m hm => ?_, h.channels,
      h.emitted, h.closedAt, ?_, fun m hm => ?_⟩
    · simp [Session.step, h.feeds m hm, h.isOpen, h.opened]
    · simp [Session.step, h.length]
    · simp only [Session.step, h.emitted, List.getElem?_append, h.length, h.receivers m hm]

theorem Apart.run (h : Apart n s t) (ops : List Hub.Op) : Apart n (s.run ops) (t.run ops) := by
  induction ops generalizing s t with
  | nil => exact h
  | cons op ops ih => exact ih (h.step op)

/-- A session differs from the one in which a stream was not dropped in this stream only. -/
theorem apart_drop (n : Nat) (s : Session) : Apart n s (s.step (.drop n)) where
  isOpen := rfl
  subscriptions := rfl
  opened := rfl
  feeds m hm := by simp [step, change, hm]
  channels := rfl
  emitted := rfl
  closedAt := rfl
  length := List.length_modify ..
  receivers m hm := by
    simp only [step, change, List.getElem?_modify, if_neg (Ne.symm hm)]
    exact Option.map_id' ..

/-! ## Fan-out -/

/-- A stream that was dropped stays as it is. -/
theorem receivers_step_of_dropped (h : s.Faithful) (hr : s.receivers[n]? = some r)
    (hd : r.dropped = true) (op : Hub.Op) : (s.step op).receivers[n]? = some r := by
  cases op with
  | publish channel text => exact hr
  | changeTopology => exact hr
  | close => exact hr
  | events =>
    obtain ⟨hlt, -⟩ := List.getElem?_eq_some_iff.mp hr
    exact (List.getElem?_append_left hlt).trans hr
  | subscribe channel =>
    simp only [step]
    split <;> exact hr
  | read m =>
    obtain ⟨hnone, -⟩ := (h.served n r hr).dropped hd
    simp only [step, change, List.getElem?_modify, hr, Hub.takeAll_fst]
    by_cases hm : m = n
    · subst hm
      simp [Hub.held_of_none hnone]
    · simp [hm]
  | drop m =>
    simp only [step, change, List.getElem?_modify, hr]
    by_cases hm : m = n
    · simp [← hd]
    · simp [hm]

theorem receivers_run_of_dropped (h : s.Faithful) (hr : s.receivers[n]? = some r)
    (hd : r.dropped = true) (ops : List Hub.Op) : (s.run ops).receivers[n]? = some r := by
  induction ops generalizing s with
  | nil => exact hr
  | cons op ops ih => exact ih (faithful_step h op) (receivers_step_of_dropped h hr hd op)

theorem hub_step (s : Session) (op : Hub.Op) : (s.step op).hub = s.hub.act op := by
  cases op with
  | subscribe channel =>
    simp only [step, Hub.act]
    split <;> simp_all [emit]
  | _ => rfl

theorem hub_run (s : Session) (ops : List Hub.Op) :
    (s.run ops).hub = ops.foldl (fun h op => h.act op) s.hub := by
  induction ops generalizing s with
  | nil => rfl
  | cons op ops ih => exact (ih (s.step op)).trans (by rw [hub_step]; rfl)

/-- What can be seen of a hub, whatever was done with it. -/
structure FansOut (s : Session) : Prop where
  /-- A stream that was not dropped has been given the first of the events it is to get, in order;
  the hub holds the others for it. -/
  delivers : ∀ (n : Nat) (r : Receiver), s.receivers[n]? = some r → r.dropped = false →
    r.received ++ s.hub.held n = s.due r
  /-- It has ended when the hub is closed and it has been given all of them. -/
  ends : ∀ (n : Nat) (r : Receiver), s.receivers[n]? = some r → r.dropped = false →
    (s.hub.isOver n = true ↔ s.closedAt.isSome ∧ r.received = s.due r)
  /-- A stream that was dropped has been given the first of them, and gets nothing more. -/
  dropped : ∀ (n : Nat) (r : Receiver), s.receivers[n]? = some r → r.dropped = true →
    r.received <+: s.due r ∧ ∀ ops, (s.run ops).receivers[n]? = some r
  subscriptions : s.hub.subscriptions = s.channels
  /-- As long as the hub is open, channels can be subscribed, and all hear how many there are. -/
  accepts : s.closedAt = none → ∀ channel,
    (s.hub.subscribe channel).1 = .ok () ∧
      (s.hub.subscribe channel).2.subscriptions = s.channels ++ [channel] ∧
      (s.step (.subscribe channel)).emitted
        = s.emitted ++ [.subscribed channel (s.channels ++ [channel]).length]
  /-- After that they cannot, and nothing changes. -/
  refuses : s.closedAt.isSome → ∀ channel,
    s.hub.subscribe channel = (.error .disconnected, s.hub)

/-- What can be seen of a hub some time after it was closed. -/
structure StaysClosed (s t : Session) : Prop where
  /-- Nothing is added to what a stream is to get. -/
  due : ∀ (n : Nat) (r r' : Receiver), s.receivers[n]? = some r → t.receivers[n]? = some r' →
    t.due r' = s.due r
  /-- A stream that was opened after the close is empty, and has ended. -/
  empty : ∀ (n : Nat) (r : Receiver), s.receivers.length ≤ n → t.receivers[n]? = some r →
    r.received = [] ∧ t.hub.held n = [] ∧ t.hub.isOver n = true

theorem Faithful.fansOut (h : s.Faithful) : s.FansOut where
  delivers n r hr hd := by
    obtain ⟨f, hf, -, hheld⟩ := (h.served n r hr).live hd
    rw [Hub.held_of_some hf]
    exact hheld
  ends n r hr hd := by
    obtain ⟨f, hf, hattached, hheld⟩ := (h.served n r hr).live hd
    rw [Hub.isOver_of_some hf, hattached, h.isOpen, ← hheld]
    cases s.closedAt <;> simp
  dropped n r hr hd :=
    ⟨((h.served n r hr).dropped hd).2, fun ops => receivers_run_of_dropped h hr hd ops⟩
  subscriptions := h.subscriptions
  accepts hc channel := by
    have ho : s.hub.isOpen = true := by rw [h.isOpen, hc]; rfl
    simp only [step, Hub.subscribe_of_open ho, ← h.subscriptions]
    exact ⟨trivial, rfl, rfl⟩
  refuses hc channel := by
    have ho : s.hub.isOpen = false := by
      rw [h.isOpen]
      exact Option.isNone_eq_false_iff.mpr hc
    exact Hub.subscribe_of_closed ho channel

theorem Faithful.staysClosed (h : s.Faithful) (hc : s.closedAt = some k) (ops : List Hub.Op) :
    s.StaysClosed (s.run ops) where
  due n r r' hr hr' := by
    obtain ⟨r'', hr'', hsince⟩ := (later_run s ops).old n r hr
    obtain rfl := Option.some.inj (hr''.symm.trans hr')
    exact (later_run s ops).due hc (h.closedAt_le k hc) hsince
  empty n r hn hr := by
    have hlater := later_run s ops
    have hdue := hlater.due_of_new hc (h.closedAt_le k hc) (hlater.new n r hn hr)
    have hfaithful := faithful_run h ops
    cases hd : r.dropped with
    | true =>
      obtain ⟨hnone, hpre⟩ := (hfaithful.served n r hr).dropped hd
      rw [hdue, List.prefix_nil] at hpre
      exact ⟨hpre, Hub.held_of_none hnone, by simp [Hub.isOver, hnone]⟩
    | false =>
      have hdelivers := hfaithful.fansOut.delivers n r hr hd
      rw [hdue, List.append_eq_nil_iff] at hdelivers
      refine ⟨hdelivers.1, hdelivers.2, (hfaithful.fansOut.ends n r hr hd).mpr ⟨?_, ?_⟩⟩
      · rw [hlater.closedAt k hc]
        rfl
      · rw [hdue]
        exact hdelivers.1

/-- **Every stream gets the events that are emitted between its opening and the close**, once and in
order, whoever else opens, reads and drops streams, and whatever else is done with the hub; then it
ends. No other stream depends on one that is dropped, also where the listeners are kept in a list
and one that was dropped is noticed at the next event only. The subscriptions are those made since
the topology last changed. After the close there are no others, and nothing is delivered any more.
-/
theorem events_fan_out (ops : List Hub.Op) :
    let s := ({} : Session).run ops
    s.FansOut ∧
    (∀ more, s.closedAt.isSome → s.StaysClosed (s.run more)) ∧
    (∀ n more, Apart n (s.run more) ((s.step (.drop n)).run more)) ∧
    (ops.foldl (fun b op => b.act op) ({} : Board)).Shows s.hub := by
  intro s
  have hs : s.Faithful := faithful_run faithful_new ops
  refine ⟨hs.fansOut, fun more hc => ?_, fun n more => (apart_drop n s).run more, ?_⟩
  · obtain ⟨k, hk⟩ := Option.isSome_iff_exists.mp hc
    exact hs.staysClosed hk more
  · rw [hub_run]
    exact Board.shows_run ops

/-- The second stream was opened after the message, and the first one never read. -/
example : (({} : Session).run [.events, .publish "a" "b", .events, .drop 0, .changeTopology,
    .read 1]).receivers.map (·.received) = [[], [.topologyChanged]] := by decide

end Session

end ClusterGuard.Memory
