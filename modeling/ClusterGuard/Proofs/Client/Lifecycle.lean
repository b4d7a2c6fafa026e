import ClusterGuard.Proofs.Client.Construction
import ClusterGuard.Proofs.Client.Use

/-!
# The lifecycle of a client in use

A `Session` is a client from its connection to the cluster on. Its users open publish/subscribe
connections, use it, and shut it down, as often as they like and in any order. The client opens and
closes with facilities that keep a journal; the session keeps that, and what those were told who
asked for a connection.

Results:
* `openPubSub_cases`: asking for a connection adds one, or changes nothing.
* `Down.refusal_command`, `Down.refusal_run`, `Down.refusals_collect`: what is refused once
  everything is closed.
* `sound_step`: every operation keeps registry, transport, shutdown flag and what is closed in step.
* `refuses_run`, `refusals_of_hold`: a call that is begun after the shutdown comes to nothing but
  refusals.
* **`lifecycle_is_accounted`**: what a client of any length of life comes to.
* `lifecycle_of_create`: the same for the clients that construction returns.
-/

namespace ClusterGuard.Client

open Memory (Lane)

variable {α : Type}

/-! ## Opening connections in memory -/

section Opening

variable {ω : Type} {c : Client ω}

/-- A client with one more publish/subscribe connection. -/
def joined (c : Client ω) : Client ω :=
  let number := c.connections.length
  let connection := .create (c.name ++ "-pubsub") (contextName c.name) {}
  { c with
    transport := { c.transport with pubSubs := c.transport.pubSubs ++ [number] }
    connections := c.connections ++ [connection]
    registry := { c.registry with records := c.registry.records ++ [number] } }

theorem openPubSub_of_refused {fault : Fault} (h : c.isShutDown = false)
    (hrefused : c.transport.refusesPubSub = some fault) : c.openPubSub = (.error fault, c) := by
  have hconnect : c.connectPubSub = (.error fault, c) := by
    simp [connectPubSub, Memory.Transport.openPubSub, hrefused]
  rw [openPubSub, Facilities.openPubSub_of_refused h hconnect]

theorem openPubSub_of_accepting (h : c.isShutDown = false)
    (haccepting : c.transport.refusesPubSub = none) :
    c.openPubSub = (.ok c.connections.length, c.joined) := by
  let number := c.connections.length
  let connection := PubSub.Connection.unstarted (ω := ω) (c.name ++ "-pubsub") {}
  let connected : Client ω := { c with
    transport := { c.transport with pubSubs := c.transport.pubSubs ++ [number] }
    connections := c.connections ++ [connection] }
  have hconnect : c.connectPubSub = (.ok number, connected) := by
    simp [connectPubSub, Memory.Transport.openPubSub, haccepting, number, connected, connection]
  have hstart : (facilities ω).startDispatch (contextName c.name) number connected
      = (none, { connected with
          connections := c.connections ++ [connection.start (contextName c.name)] }) := by
    simp [facilities, changePubSub, number, connected]
  rw [openPubSub, Facilities.openPubSub_of_started h hconnect hstart]
  rfl

/-- **Asking for a connection** adds one, or it changes nothing. -/
theorem openPubSub_cases (c : Client ω) :
    (∃ fault, c.openPubSub = (.error fault, c)) ∨
      c.isShutDown = false ∧ c.openPubSub = (.ok c.connections.length, c.joined) := by
  cases h : c.isShutDown with
  | true => exact .inl ⟨_, openPubSub_of_shutDown h⟩
  | false =>
    cases hrefuses : c.transport.refusesPubSub with
    | some fault => exact .inl ⟨fault, openPubSub_of_refused h hrefuses⟩
    | none => exact .inr ⟨rfl, openPubSub_of_accepting h hrefuses⟩

theorem shutDown_of_live (h : c.isShutDown = false) : c.shutDown =
    { c.closeAll (closingOrder c.registry.records) with registry := ⟨[], true⟩ } := by
  rw [shutDown, Facilities.shutDown_eq h]

end Opening

/-! ## Commands on a client of which everything is closed -/

section Refusals

variable {ω : Type} {c : Client ω}

theorem Down.ended_of_mem (h : c.Down) {p : PubSub.Connection ω} (hp : p ∈ c.connections) :
    p.Ended := by
  obtain ⟨number, hnumber⟩ := List.getElem?_of_mem hp
  exact h.ended hnumber

/-- Guarded work on a publish/subscribe connection is refused, -/
theorem Down.refusal_command (h : c.Down) {p : PubSub.Connection ω} (hp : p ∈ c.connections)
    {work : Nat → Act Memory.Hub Cause α} (hw : ∀ n, (work n).Refused Memory.Hub.Shut) :
    Refusal (p.run c.shared work).1 :=
  (Guard.keeps_run refusal_circuitOpen c.shared.guard (fun n => (hw n).keeps) (fun _ _ hs => hs)
    (h.ended_of_mem hp).1).1

/-- and so is guarded work on a command connection, -/
theorem Down.refusal_run (h : c.Down) (lane : Lane) {work : Nat → Act Memory.Connection Cause α}
    (hw : ∀ n, (work n).Refused Memory.Connection.Shut) : Refusal (c.run lane work).1.result := by
  obtain ⟨_, _, _, hkept⟩ := c.keeps_run refusal_circuitOpen lane fun n => (hw n).keeps
  exact (hkept (h (.connection lane))).1

/-- and every item of a stream over one. -/
theorem Down.refusals_collect (h : c.Down) (lane : Lane)
    {subscriptions : Nat → Script Memory.Connection Cause α}
    (hs : ∀ n, (subscriptions n).All (Act.Refused Memory.Connection.Shut)) (wanted polls : Nat) :
    ∀ item ∈ (c.collect lane subscriptions wanted polls).1, Refusal item := by
  obtain ⟨_, _, _, hkept⟩ := c.keeps_collect refusal_circuitOpen lane
    (fun n => (hs n).imp fun _ => Act.Refused.keeps) wanted polls
  exact (hkept (h (.connection lane))).1

end Refusals

/-! ## Sessions -/

/-- A client from its beginning on. -/
structure Session (ω α : Type) where
  client : Client ω
  /-- The calls on command connections, in the order in which they were made. -/
  calls : List (Held α) := []
  /-- The calls that opening connections and shutting down took. -/
  journal : List Call := []
  /-- What those were told who asked for a publish/subscribe connection. -/
  results : List (Except Fault Nat) := []

namespace Session

variable {ω : Type} {s : Session ω α} {name : String} {opened : List Nat}
  {past : List (Op (Use ω α))}

/-- What can be told of the client. -/
def books (s : Session ω α) : Books := ⟨s.client.registry, s.journal, s.results⟩

/-- The numbers of the publish/subscribe connections that were opened. -/
def created (s : Session ω α) : List Nat := s.books.created

/-- The session after its client has opened or closed something. -/
def after (s : Session ω α) (kept : Books × Client ω) : Session ω α where
  client := { kept.2 with registry := kept.1.registry }
  calls := s.calls
  journal := kept.1.journal
  results := kept.1.results

/-- The session after an operation. The facilities of the client write the journal. -/
def step (s : Session ω α) : Op (Use ω α) → Session ω α
  | .openPubSub => s.after (s.books.openPubSub (facilities ω) s.client.name s.client)
  | .shutDown => s.after (s.books.shutDown (facilities ω) s.client)
  | .use u =>
    let (client, calls) := InUse.use (s.client, s.calls) u
    { s with client, calls }

/-- The session after some operations. -/
def run (s : Session ω α) (ops : List (Op (Use ω α))) : Session ω α := ops.foldl step s

/-! ### Opening and shutting down -/

theorem step_openPubSub (s : Session ω α) : ∃ journal, s.step .openPubSub =
    { s with client := s.client.openPubSub.2, journal,
             results := s.results ++ [s.client.openPubSub.1] } := by
  obtain ⟨journal, heq⟩ := s.books.openPubSub_plain (facilities ω) s.client.name s.client
  refine ⟨journal, ?_⟩
  simp only [step, heq]
  rfl

theorem step_shutDown (s : Session ω α) : ∃ journal, s.step .shutDown =
    { s with client := s.client.shutDown, journal } := by
  obtain ⟨journal, heq⟩ := s.books.shutDown_plain (facilities ω) s.client
  refine ⟨journal, ?_⟩
  simp only [step, heq]
  rfl

/-- What ties a session together. The transport had opened some connections before. -/
structure Sound (name : String) (opened : List Nat) (past : List (Op (Use ω α)))
    (s : Session ω α) : Prop where
  accounted : Accounted name past s.books
  named : s.client.name = name
  orderly : InUse.Orderly (s.client, s.calls)
  created : s.created = List.range s.client.connections.length
  pubSubs : s.client.transport.pubSubs = opened ++ s.created
  down : s.client.isShutDown = true → s.client.Down

theorem Sound.isShutDown (h : s.Sound name opened past) :
    s.client.isShutDown = past.any Op.isShutDown := h.accounted.isShutDown

theorem Sound.records (h : s.Sound name opened past) :
    s.client.registry.records = if s.client.isShutDown then [] else s.created :=
  h.accounted.records

theorem sound_openPubSub (h : s.Sound name opened past) :
    (s.step .openPubSub).Sound name opened (past ++ [.openPubSub]) := by
  have haccounted : Accounted name (past ++ [.openPubSub]) (s.step .openPubSub).books :=
    h.named ▸ (h.named.symm ▸ h.accounted).openPubSub (facilities ω) s.client
  obtain ⟨journal, hstep⟩ := s.step_openPubSub
  rw [hstep] at haccounted ⊢
  rcases s.client.openPubSub_cases with ⟨fault, hrefused⟩ | ⟨hlive, hopened⟩
  · -- nothing has changed but for what somebody was told
    have hcreated : numbers (s.results ++ [.error fault]) = s.created := by
      simp [numbers, created, books, Books.created, Except.toOption]
    rw [hrefused] at haccounted ⊢
    exact ⟨haccounted, h.named, h.orderly, hcreated.trans h.created,
      h.pubSubs.trans (congrArg (opened ++ ·) hcreated.symm), h.down⟩
  · have hcreated : numbers (s.results ++ [.ok s.client.connections.length])
        = s.created ++ [s.client.connections.length] := by
      simp [numbers, created, books, Books.created, Except.toOption]
    rw [hopened] at haccounted ⊢
    refine ⟨haccounted, h.named, h.orderly, hcreated.trans ?_, ?_, fun hdown => ?_⟩
    · simp [joined, h.created, List.range_succ]
    · refine (congrArg (· ++ [s.client.connections.length]) h.pubSubs).trans ?_
      rw [List.append_assoc, ← hcreated]
      rfl
    · exact absurd (hlive.symm.trans hdown) Bool.false_ne_true

theorem sound_shutDown (h : s.Sound name opened past) :
    (s.step .shutDown).Sound name opened (past ++ [.shutDown]) := by
  have haccounted : Accounted name (past ++ [.shutDown]) (s.step .shutDown).books :=
    h.accounted.shutDown (facilities ω) s.client
  obtain ⟨journal, hstep⟩ := s.step_shutDown
  rw [hstep] at haccounted ⊢
  cases hdown : s.client.isShutDown with
  | true =>
    rw [shutDown_of_shutDown hdown] at haccounted ⊢
    exact ⟨haccounted, h.named, h.orderly, h.created, h.pubSubs, h.down⟩
  | false =>
    have hrecords := h.records
    rw [hdown, if_neg Bool.false_ne_true] at hrecords
    rw [shutDown_of_live hdown, hrecords] at haccounted ⊢
    have hframe := s.client.continues_closeAll (closingOrder s.created)
    -- every connection there is was registered, so that none is left open
    have hall : ∀ n < s.client.connections.length, n ∈ s.created := by
      intro n hn
      rw [h.created]
      exact List.mem_range.mpr hn
    have hdowned := Client.down_closeAll hall
    refine ⟨haccounted, hframe.name.trans h.named, h.orderly, ?_, hframe.pubSubs.trans h.pubSubs,
      fun _ => hdowned.of_eq (fun _ => rfl) rfl rfl⟩
    exact h.created.trans (congrArg List.range hframe.length.symm)

theorem sound_use (h : s.Sound name opened past) (u : Use ω α) :
    (s.step (.use u)).Sound name opened (past ++ [.use u]) := by
  have hc := InUse.continues_use h.orderly u
  have hbooks : (s.step (.use u)).books = s.books :=
    congrArg (Books.mk · s.journal s.results) hc.registry
  refine ⟨?_, hc.name.trans h.named, InUse.orderly_use h.orderly u, ?_, hc.pubSubs.trans h.pubSubs,
    fun hdown => hc.down (h.down ?_)⟩
  · rw [hbooks]
    exact h.accounted.use u
  · exact h.created.trans (congrArg List.range hc.length.symm)
  · exact (congrArg Registry.isShutDown hc.registry).symm.trans hdown

/-- **Every operation keeps registry, transport, shutdown and what is closed in step.** -/
theorem sound_step (h : s.Sound name opened past) (op : Op (Use ω α)) :
    (s.step op).Sound name opened (past ++ [op]) := by
  cases op with
  | openPubSub => exact sound_openPubSub h
  | shutDown => exact sound_shutDown h
  | use u => exact sound_use h u

theorem sound_run (h : s.Sound name opened past) (ops : List (Op (Use ω α))) :
    (s.run ops).Sound name opened (past ++ ops) := by
  induction ops generalizing s past with
  | nil => simpa [run] using h
  | cons op ops ih =>
    rw [List.append_cons]
    exact ih (sound_step h op)

/-- A client that has just connected. -/
def start (name : String) (transport : Memory.Transport) (shared : PubSub.Shared ω) :
    Session ω α where
  client := { name, transport, shared }

theorem sound_start (name : String) (transport : Memory.Transport) (shared : PubSub.Shared ω) :
    (start name transport shared : Session ω α).Sound name transport.pubSubs [] :=
  ⟨.nil, rfl, nofun, rfl, (List.append_nil _).symm, nofun⟩

/-! ### Calls after the shutdown -/

theorem refuses_step (h : s.Sound name opened past) (hdown : s.client.isShutDown = true)
    {place : Nat} (hr : InUse.Refuses place (s.client, s.calls)) (op : Op (Use ω α)) :
    InUse.Refuses place ((s.step op).client, (s.step op).calls) := by
  cases op with
  | openPubSub =>
    obtain ⟨journal, hstep⟩ := s.step_openPubSub
    rw [hstep, openPubSub_of_shutDown hdown]
    exact hr
  | shutDown =>
    obtain ⟨journal, hstep⟩ := s.step_shutDown
    rw [hstep, shutDown_of_shutDown hdown]
    exact hr
  | use u => exact InUse.refuses_use (h.down hdown) hr u

/-- **A call that is begun after the shutdown comes to nothing but refusals.** -/
theorem refuses_run (h : s.Sound name opened past) (hdown : s.client.isShutDown = true)
    {place : Nat} (hr : InUse.Refuses place (s.client, s.calls)) (ops : List (Op (Use ω α))) :
    InUse.Refuses place ((s.run ops).client, (s.run ops).calls) := by
  induction ops generalizing s past with
  | nil => exact hr
  | cons op ops ih =>
    have hstep := sound_step h op
    refine ih hstep ?_ (refuses_step h hdown hr op)
    rw [hstep.isShutDown, List.any_append, ← h.isShutDown, hdown, Bool.true_or]

theorem refusals_of_hold (h : s.Sound name opened past) (hdown : s.client.isShutDown = true)
    (lane : Lane) {request : Request α} (hr : request.All (Act.Within Memory.Connection.Reaches))
    (hrefused : request.All (Act.Refused Memory.Connection.Shut)) (ops : List (Op (Use ω α))) :
    ∃ call, ((s.step (.use (.hold lane request hr))).run ops).calls[s.calls.length]? = some call ∧
      ∀ result ∈ call.results, Refusal result := by
  let begun : Session ω α := s.step (.use (.hold lane request hr))
  -- the call is refused from the start, and the run keeps that
  have hplace : InUse.Refuses s.calls.length (begun.client, begun.calls) := by
    refine ⟨.start lane request, ?_, ?_, Held.holds_start lane request⟩
    · simp [begun, step, InUse.use]
    · exact Held.keeps_start lane (fun _ => Act.Refused.keeps) hrefused
  obtain ⟨call, hcall, -, hholds⟩ :=
    refuses_run (sound_step h (.use (.hold lane request hr))) hdown hplace ops
  exact ⟨call, hcall, hholds.2⟩

/-! ### The two phases -/

/-- **What a session comes to before the client is shut down.** -/
structure Live (opened : List Nat) (s : Session ω α) : Prop where
  /-- The registry holds the connections that were opened, in that order, -/
  registry : s.client.registry = ⟨s.created, false⟩
  created : s.created = List.range s.client.connections.length
  /-- and these are the ones that the transport has opened for this client. -/
  pubSubs : s.client.transport.pubSubs = opened ++ s.created
  /-- One more is opened if the transport gives one, -/
  opening : s.client.openPubSub.1 =
    s.client.transport.refusesPubSub.elim (.ok s.created.length) .error
  /-- and if it does not, nothing changes. -/
  failing : ∀ fault, s.client.transport.refusesPubSub = some fault →
    s.client.openPubSub = (.error fault, s.client)
  /-- Shutting down closes everything, call by call, -/
  closing : (s.step .shutDown).journal = s.journal ++ (closingOrder s.created).map .closed
  /-- nothing twice. -/
  nodup : (closingOrder s.created).Nodup
  /-- Whenever it has come so far, those things are closed whose turn has come, no others. -/
  closes : ∀ n x, (s.client.closeAll ((closingOrder s.created).take n)).Closed x ↔
    x ∈ (closingOrder s.created).take n ∨ s.client.Closed x
  shutDown : s.client.shutDown =
    { s.client.closeAll (closingOrder s.created) with registry := ⟨[], true⟩ }

/-- **What a session comes to once the client was shut down.** -/
structure Over (name : String) (opened : List Nat) (s : Session ω α) : Prop where
  registry : s.client.registry = ⟨[], true⟩
  created : s.created = List.range s.client.connections.length
  pubSubs : s.client.transport.pubSubs = opened ++ s.created
  /-- The last calls closed everything that was opened, -/
  closed : ∃ calls, s.journal = calls ++ (closingOrder s.created).map .closed
  /-- nothing twice, -/
  nodup : (closingOrder s.created).Nodup
  /-- and is still closed. -/
  down : s.client.Down
  /-- Shutting down again has no effect and takes no call. -/
  shutDown : s.step .shutDown = s
  /-- Whoever asks for a connection is told so, and nobody else is asked: there is no call. -/
  asking : s.step .openPubSub = { s with results := s.results ++ [.error (.shutDown name)] }
  /-- No connection is opened, whatever the transport would say. -/
  openPubSub : ∀ transport, { s.client with transport }.openPubSub =
    (.error (.shutDown name), { s.client with transport })
  listen : ∀ p ∈ s.client.connections, ∀ listener,
    (p.listen listener).1 = .error (.shutDown p.dispatch.name)
  watch : ∀ p ∈ s.client.connections, ∀ handler,
    (p.watch handler).1 = .error (.shutDown p.dispatch.name)
  /-- Every command on any connection fails, -/
  subscribe : ∀ p ∈ s.client.connections, ∀ channel,
    p.hub.subscribe channel = (.error .disconnected, p.hub)
  get : ∀ lane key, (s.client.transport.connection lane).get key =
    (.error .disconnected, s.client.transport.connection lane)
  pop : ∀ lane, (s.client.transport.connection lane).pop =
    (.error .disconnected, s.client.transport.connection lane)
  popLater : ∀ lane, (s.client.transport.connection lane).popLater =
    (.answered (.error .disconnected), s.client.transport.connection lane)
  /-- and so does all guarded work that consists of such commands: run to its end, -/
  command : ∀ p ∈ s.client.connections, ∀ work : Nat → Act Memory.Hub Cause α,
    (∀ n, (work n).Refused Memory.Hub.Shut) → Refusal (p.run s.client.shared work).1
  run : ∀ lane, ∀ work : Nat → Act Memory.Connection Cause α,
    (∀ n, (work n).Refused Memory.Connection.Shut) → Refusal (s.client.run lane work).1.result
  /-- be it a `get`, a `pop` or a subscription, whatever would be done with the answer, -/
  gets : ∀ lane key, ∀ next : Nat → String → Act Memory.Connection Cause α,
    Refusal (s.client.run lane fun n => Act.issuing (·.get key) (next n)).1.result
  pops : ∀ lane, ∀ next : Nat → Option String → Act Memory.Connection Cause α,
    Refusal (s.client.run lane fun n => Act.issuing (·.pop) (next n)).1.result
  subscribes : ∀ p ∈ s.client.connections, ∀ channel, ∀ next : Nat → Unit → Act Memory.Hub Cause α,
    Refusal (p.run s.client.shared fun n => Act.issuing (·.subscribe channel) (next n)).1
  /-- collected from a stream, -/
  collect : ∀ lane, ∀ subscriptions : Nat → Script Memory.Connection Cause α,
    (∀ n, (subscriptions n).All (Act.Refused Memory.Connection.Shut)) → ∀ wanted polls,
    ∀ item ∈ (s.client.collect lane subscriptions wanted polls).1, Refusal item
  /-- or held in any shape, whatever is done meanwhile. -/
  held : ∀ (lane : Lane) (request : Request α)
    (hr : request.All (Act.Within Memory.Connection.Reaches)),
    request.All (Act.Refused Memory.Connection.Shut) → ∀ ops : List (Op (Use ω α)),
    ∃ call, ((s.step (.use (.hold lane request hr))).run ops).calls[s.calls.length]? = some call ∧
      ∀ result ∈ call.results, Refusal result

/-- What a session comes to, whatever was done before with a client of this name, whose transport
had opened some connections already. -/
structure Lived (name : String) (opened : List Nat) (past : List (Op (Use ω α)))
    (s : Session ω α) : Prop where
  /-- Which calls were made, and what was said to whom. -/
  accounted : Accounted name past s.books
  /-- The journal only looks on. -/
  opens : ∃ journal, s.step .openPubSub =
    { s with client := s.client.openPubSub.2, journal,
             results := s.results ++ [s.client.openPubSub.1] }
  shutsDown : ∃ journal, s.step .shutDown = { s with client := s.client.shutDown, journal }
  /-- The client is shut down exactly if somebody did that. -/
  isShutDown : s.client.isShutDown = past.any Op.isShutDown
  phase : if s.client.isShutDown then s.Over name opened else s.Live opened

theorem Sound.nodup (h : s.Sound name opened past) : (closingOrder s.created).Nodup := by
  rw [h.created]
  exact nodup_closingOrder List.nodup_range

theorem live_of_sound (h : s.Sound name opened past) (hdown : s.client.isShutDown = false) :
    s.Live opened := by
  have hrecords := h.records
  rw [hdown, if_neg Bool.false_ne_true] at hrecords
  have hlength : s.created.length = s.client.connections.length := by
    rw [h.created, List.length_range]
  refine
    { registry := congrArg₂ Registry.mk hrecords hdown
      created := h.created
      pubSubs := h.pubSubs
      opening := ?_
      failing := fun fault => Client.openPubSub_of_refused hdown
      closing := ?_
      nodup := h.nodup
      closes := fun n x => Client.closed_closeAll_iff ..
      shutDown := ?_ }
  · cases hrefuses : s.client.transport.refusesPubSub with
    | some fault => rw [Client.openPubSub_of_refused hdown hrefuses, Option.elim_some]
    | none => rw [Client.openPubSub_of_accepting hdown hrefuses, hlength, Option.elim_none]
  · have hlive : s.books.registry.isShutDown = false := hdown
    rw [step, Books.shutDown, Facilities.shutDown_journaled hlive]
    exact congrArg (fun records => s.journal ++ (closingOrder records).map Call.closed) hrecords
  · rw [Client.shutDown_of_live hdown, hrecords]

theorem over_of_sound (h : s.Sound name opened past) (hdown : s.client.isShutDown = true) :
    s.Over name opened := by
  have hrecords := h.records
  rw [hdown, if_pos rfl] at hrecords
  have hover : s.books.registry.isShutDown = true := hdown
  have hd := h.down hdown
  have hlane (lane : Lane) : (s.client.transport.connection lane).Shut := hd (.connection lane)
  refine
    { registry := congrArg₂ Registry.mk hrecords hdown
      created := h.created
      pubSubs := h.pubSubs
      closed := h.accounted.exists_closing hdown
      nodup := h.nodup
      down := hd
      shutDown := ?_
      asking := ?_
      openPubSub := fun transport => ?_
      listen := fun p hp => PubSub.Connection.listen_of_stopped (hd.ended_of_mem hp).2.1
      watch := fun p hp => PubSub.Connection.watch_of_stopped (hd.ended_of_mem hp).2.1
      subscribe := fun p hp => Memory.Hub.subscribe_of_closed (hd.ended_of_mem hp).1
      get := fun lane => Memory.Connection.get_of_closed (hlane lane)
      pop := fun lane => Memory.Connection.pop_of_closed (hlane lane)
      popLater := fun lane => ?_
      command := fun p hp work hw => hd.refusal_command hp hw
      run := fun lane work hw => hd.refusal_run lane hw
      gets := fun lane key next => hd.refusal_run lane fun n => Act.refused_get key (next n)
      pops := fun lane next => hd.refusal_run lane fun n => Act.refused_pop (next n)
      subscribes := fun p hp channel next =>
        hd.refusal_command hp fun n => Act.refused_subscribe channel (next n)
      collect := fun lane subscriptions hs wanted polls => hd.refusals_collect lane hs wanted polls
      held := fun lane request hr hrefused ops => refusals_of_hold h hdown lane hr hrefused ops }
  · rw [step, Books.shutDown, Facilities.shutDown_of_shutDown hover]
    rfl
  · rw [step, Books.openPubSub, Facilities.openPubSub_of_shutDown hover, h.named]
    rfl
  · rw [← h.named]
    exact Client.openPubSub_of_shutDown hdown
  · simp [Memory.Connection.popLater, Memory.Connection.pop_of_closed (hlane lane)]

theorem lived_of_sound (h : s.Sound name opened past) : s.Lived name opened past := by
  refine ⟨h.accounted, s.step_openPubSub, s.step_shutDown, h.isShutDown, ?_⟩
  split
  · exact over_of_sound h ‹_›
  · exact live_of_sound h (Bool.eq_false_iff.mpr ‹_›)

/-- **The lifecycle of a client.** In any surroundings, whatever they answer and whatever else
happens there: until the client is shut down, its registry holds the connections it was given, in
order; the first time it is shut down everything is closed once, in order; after that nothing is
called any more, and nobody is asked for a connection. In memory, moreover, nothing that was closed
is of any use afterwards. -/
theorem lifecycle_is_accounted {κ : Type} (f : Facilities κ) (name : String) (k : κ)
    (deeds : List (Op (κ → κ))) (transport : Memory.Transport) (shared : PubSub.Shared ω)
    (ops : List (Op (Use ω α))) :
    let told := Books.run f name ({}, k) deeds
    (Accounted name deeds told.1 ∧ (told.1.registry, told.2) = f.run name ({}, k) deeds) ∧
      ((start name transport shared).run ops).Lived name transport.pubSubs ops := by
  refine ⟨⟨accounted_run f name k deeds, Books.run_plain f name ({}, k) deeds⟩, ?_⟩
  exact lived_of_sound (sound_run (sound_start name transport shared) ops)

/-- Every client that construction returns lives like this. -/
theorem lifecycle_of_create {transport : Memory.Transport} {timeout : Duration}
    {breaker : Breaker.Config} {retry : Retry.Config} {draw : Nat → Binary .double} {own : ω}
    {c : Client ω} (h : Client.create name transport timeout breaker retry draw own = .ok c)
    (ops : List (Op (Use ω α))) :
    (run { client := c } ops).Lived name transport.pubSubs ops := by
  obtain ⟨-, -, rfl⟩ := created_of_create h
  have hstart := sound_start (α := α) name (transport.setOptions (.faultTolerant timeout))
    (soundPolicies name breaker retry draw own)
  exact lived_of_sound (sound_run hstart ops)

/-- Two connections that were opened, one that was refused between them, and two shutdowns. -/
example (name : String) (shared : PubSub.Shared ω) :
    ((start name {} shared : Session ω α).run [.openPubSub, .use (.refuse true), .openPubSub,
      .use (.refuse false), .openPubSub, .shutDown, .shutDown, .openPubSub]).journal =
    [.connected 0, .started (contextName name) 0, .refused Memory.Transport.pubSubRefused,
      .connected 1, .started (contextName name) 1] ++
    [Closing.connection .text, .connection .binary, .pubSub 0, .dispatch 0, .pubSub 1, .dispatch 1,
      .transport].map .closed := by cbv

end Session

end ClusterGuard.Client
