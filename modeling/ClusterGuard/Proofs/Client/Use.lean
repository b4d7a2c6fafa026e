import ClusterGuard.Proofs.Client.Closing

/-!
# Uses of a client

What may be done with a client apart from opening publish/subscribe connections and shutting it
down: commands of every shape on any connection, listeners and handlers, and whatever the driver
does. A call that is held is polled one turn at a time, so that everything else may come in between.
Chance, time and the direct use of the guard come in as a change of it.

Work may do to a connection what the operations of connections come to, one after the other;
handlers and listeners may do anything.

Results:
* **`continues_use`**, `orderly_use`: every use keeps what it has to, and so does every call that is
  held from then on.
* `refused_get`, `refused_pop`, `refused_subscribe`: what work is refused by a closed connection.
* **`refuses_use`**: a held call that comes to nothing but refusals stays so.
-/

namespace ClusterGuard

open Memory (Lane)

variable {σ α β : Type} {P : σ → Prop} {Q : Except Fault α → Prop}

/-! ## Refusals -/

/-- Whether a call was refused: by the connection, or already by the breaker. -/
def Refusal (result : Except Fault α) : Prop :=
  result = .error .disconnected ∨ ∃ rejection, result = .error (.circuitOpen rejection)

theorem refusal_circuitOpen (rejection : Rejection) :
    Refusal (.error (.circuitOpen rejection) : Except Fault α) := .inr ⟨rejection, rfl⟩

/-- Whether an act that begins where `P` holds fails there without doing anything. -/
def Act.Refused (P : σ → Prop) (act : Act σ Cause α) : Prop :=
  ∀ s, P s → act s = (.error (.fault .disconnected), s)

/-- Work that begins with a command and passes its fault on. -/
def Act.issuing (command : σ → Except Fault β × σ) (next : β → Act σ Cause α) : Act σ Cause α :=
  fun s =>
    match command s with
    | (.ok b, s) => next b s
    | (.error fault, s) => (.error (.fault fault), s)

theorem Act.refused_issuing {command : σ → Except Fault β × σ}
    (h : ∀ s, P s → command s = (.error .disconnected, s)) (next : β → Act σ Cause α) :
    (Act.issuing command next).Refused P := fun s hs => by
  simp only [issuing, h s hs]

theorem Act.refused_get (key : String) (next : String → Act Memory.Connection Cause α) :
    (Act.issuing (·.get key) next).Refused Memory.Connection.Shut :=
  refused_issuing (fun _ hs => Memory.Connection.get_of_closed hs key) next

theorem Act.refused_pop (next : Option String → Act Memory.Connection Cause α) :
    (Act.issuing (·.pop) next).Refused Memory.Connection.Shut :=
  refused_issuing (fun _ hs => Memory.Connection.pop_of_closed hs) next

theorem Act.refused_subscribe (channel : String) (next : Unit → Act Memory.Hub Cause α) :
    (Act.issuing (·.subscribe channel) next).Refused Memory.Hub.Shut :=
  refused_issuing (fun _ hs => Memory.Hub.subscribe_of_closed hs channel) next

theorem Act.Refused.keeps {act : Act σ Cause α} (h : act.Refused P) :
    Act.Keeps P Refusal (act.mapError Fault.ofCause) := fun s hs => by
  simp only [Act.mapError, h s hs]
  exact ⟨.inl rfl, hs⟩

theorem Act.Within.keeps {act : Act Memory.Connection Cause α}
    (h : act.Within Memory.Connection.Reaches) :
    Act.Keeps Memory.Connection.Shut (fun _ => True) (act.mapError Fault.ofCause) :=
  fun c hc => ⟨trivial, (h c).shut hc⟩

/-! ## Calls -/

namespace Client

/-- A command in one of its shapes. -/
inductive Request (α : Type) where
  | blocking (work : Nat → Act Memory.Connection Cause α)
  | future (work : Work Memory.Connection Cause α)
  | stream (subscriptions : Nat → Script Memory.Connection Cause α)

namespace Request

/-- Whether all that a command does is as `R` says. -/
def All (R : Act Memory.Connection Cause α → Prop) : Request α → Prop
  | blocking work => ∀ n, R (work n)
  | future work => ∀ n, R (work n).run
  | stream subscriptions => ∀ n, (subscriptions n).All R

/-- The guarded call of a command. -/
def handle : Request α → Guard.Handle Memory.Connection (Script Memory.Connection Fault α) α
  | blocking work => .blocking (.start work fun _ c => c)
  | future work => .future (.unstarted work)
  | stream subscriptions => .stream (Guard.stream subscriptions)

end Request

/-- A call on a command connection that somebody holds. -/
structure Held (α : Type) where
  lane : Lane
  handle : Guard.Handle Memory.Connection (Script Memory.Connection Fault α) α
  /-- What it has delivered. -/
  results : List (Except Fault α)

namespace Held

/-- Whether a call leaves a closed connection closed and comes to results of the kind `Q` there. -/
def Keeps (Q : Except Fault α → Prop) (call : Held α) : Prop :=
  call.handle.Keeps Memory.Connection.Shut Q (Script.All (Act.Keeps Memory.Connection.Shut Q))

/-- Whether the results of a call are of the kind `Q` so far. -/
def Holds (Q : Except Fault α → Prop) (call : Held α) : Prop :=
  call.handle.Holds Q ∧ ∀ result ∈ call.results, Q result

/-- A call that has not begun. -/
def start (lane : Lane) (request : Request α) : Held α := ⟨lane, request.handle, []⟩

theorem keeps_start (lane : Lane) {request : Request α} {R : Act Memory.Connection Cause α → Prop}
    (hR : ∀ run, R run → Act.Keeps Memory.Connection.Shut Q (Act.mapError Fault.ofCause run))
    (h : request.All R) : (start lane request).Keeps Q := by
  cases request with
  | blocking work => exact ⟨fun n => hR _ (h n), fun _ _ hs => hs⟩
  | future work => exact fun n => hR _ (h n)
  | stream subscriptions => exact ⟨fun n => Script.all_mapError.mpr ((h n).imp hR), nofun⟩

theorem holds_start (lane : Lane) (request : Request α) : (start lane request).Holds Q := by
  refine ⟨?_, nofun⟩
  cases request <;> trivial

/-- What a turn of a call comes to. -/
abbrev Turn (α : Type) := Guard.Turn Memory.Connection (Script Memory.Connection Fault α) α

/-- The turn of a call that finds this guard and this connection. -/
def turn? (call : Held α) (g : Guard) (now : Instant) (c : Memory.Connection) : Option (Turn α) :=
  call.handle.turn? (Script.source Memory.Connection Fault α) g now c

/-- The same call dropped. -/
def drop? (call : Held α) (g : Guard) (now : Instant) (c : Memory.Connection) : Option (Turn α) :=
  call.handle.drop? (Script.source Memory.Connection Fault α) g now c

/-- The call after a turn. -/
def take (call : Held α) (turn : Turn α) : Held α :=
  { call with handle := turn.handle, results := call.results ++ turn.result.toList }

/-- Whether a call has kept what it had to when it came to this. -/
def Kept (Q : Except Fault α → Prop) (call : Held α) (c : Memory.Connection) (turn : Turn α) :
    Prop :=
  turn.Kept Memory.Connection.Shut Q (Script.All (Act.Keeps Memory.Connection.Shut Q)) call.handle c

theorem holds_take {call : Held α} {c : Memory.Connection} {turn : Turn α}
    (h : call.Kept Q c turn) (hholds : call.Holds Q) (hc : c.Shut) :
    (call.take turn).Holds Q := by
  obtain ⟨hresult, hnext, -⟩ := h.2 hc hholds.1
  refine ⟨hnext, fun result hmem => ?_⟩
  rcases List.mem_append.mp hmem with hmem | hmem
  · exact hholds.2 result hmem
  · exact hresult result (Option.mem_toList.mp hmem)

end Held

/-! ## Uses -/

/-- What may be done with a client apart from opening connections and shutting it down. -/
inductive Use (ω α : Type) where
  /-- Runs a blocking command to its end. -/
  | run (lane : Lane) (work : Nat → Act Memory.Connection Cause α)
      (hw : ∀ n, (work n).Within Memory.Connection.Reaches)
  /-- Collects a stream. -/
  | collect (lane : Lane) (subscriptions : Nat → Script Memory.Connection Cause α)
      (wanted polls : Nat)
      (hs : ∀ n, (subscriptions n).All (Act.Within Memory.Connection.Reaches))
  /-- Makes a call of any shape that is held from now on. -/
  | hold (lane : Lane) (request : Request α)
      (hr : request.All (Act.Within Memory.Connection.Reaches))
  /-- The held call at this place has its turn. -/
  | turn (place : Nat) (now : Instant)
  | drop (place : Nat) (now : Instant)
  /-- Runs a command on a publish/subscribe connection. -/
  | command (number : Nat) (work : Nat → Act Memory.Hub Cause α)
      (hw : ∀ n, (work n).Within Memory.Hub.Reaches)
  | listen (number : Nat)
      (listener : Event → Desk (PubSub.World ω) → Desk (PubSub.World ω))
  | watch (number : Nat) (handler : PubSub.Handler ω)
  /-- Listeners run. -/
  | settle (steps : Nat)
  /-- A dispatch context is shut down without the client. -/
  | stop (number : Nat)
  /-- The driver acts on a command connection. -/
  | prepare (lane : Lane) (act : Memory.Connection → Memory.Connection)
      (ha : ∀ c : Memory.Connection, c.Reaches (act c))
  /-- The driver acts on a publish/subscribe connection. -/
  | drive (number : Nat) (act : Memory.Hub → Memory.Hub)
      (ha : ∀ hub : Memory.Hub, hub.Reaches (act hub))
  /-- The driver refuses publish/subscribe connections, or accepts them again. -/
  | refuse (refuse : Bool)
  | change (guard : Guard → Guard)

/-- A client and the calls that are held. -/
abbrev InUse (ω α : Type) := Client ω × List (Held α)

namespace InUse

variable {ω : Type} {s : InUse ω α}

/-- The held call at a place comes to something, if it does. -/
def take (s : InUse ω α) (place : Nat) (come : Held α → Option (Held.Turn α)) : InUse ω α :=
  match s.2[place]? with
  | some call =>
    match come call with
    | some turn => (s.1.leave call.lane turn.guard turn.scene, s.2.set place (call.take turn))
    | none => s
  | none => s

/-- The turn of a call. -/
def turn? (s : InUse ω α) (now : Instant) (call : Held α) : Option (Held.Turn α) :=
  call.turn? s.1.guard now (s.1.transport.connection call.lane)

/-- What dropping a call comes to. -/
def drop? (s : InUse ω α) (now : Instant) (call : Held α) : Option (Held.Turn α) :=
  call.drop? s.1.guard now (s.1.transport.connection call.lane)

/-- A client after a use. -/
def use (s : InUse ω α) : Use ω α → InUse ω α
  | .run lane work _ => ((s.1.run lane work).2, s.2)
  | .collect lane subscriptions wanted polls _ =>
    ((s.1.collect lane subscriptions wanted polls).2.2, s.2)
  | .hold lane request _ => (s.1, s.2 ++ [.start lane request])
  | .turn place now => s.take place (s.turn? now)
  | .drop place now => s.take place (s.drop? now)
  | .command number work _ =>
    (s.1.changePubSub number fun p shared => (p.run shared work).2, s.2)
  | .listen number listener =>
    (s.1.changePubSub number fun p shared => ((p.listen listener).2, shared), s.2)
  | .watch number handler =>
    (s.1.changePubSub number fun p shared => ((p.watch handler).2, shared), s.2)
  | .settle steps => (s.1.settle steps, s.2)
  | .stop number => (s.1.changePubSub number fun p shared => p.stop shared, s.2)
  | .prepare lane act _ => (s.1.driven (·.driven lane act), s.2)
  | .drive number act _ =>
    (s.1.changePubSub number fun p shared => (p.driven act, shared), s.2)
  | .refuse refuse => (s.1.driven (·.refusePubSub refuse), s.2)
  | .change guard => (s.1.withGuard (guard s.1.guard), s.2)

/-- Whether every call that is held leaves closed connections closed. -/
def Orderly (s : InUse ω α) : Prop := ∀ call ∈ s.2, call.Keeps fun _ => True

/-- What can happen when a call comes to something. -/
theorem take_cases (s : InUse ω α) (place : Nat) (come : Held α → Option (Held.Turn α)) :
    s.take place come = s ∨ ∃ call turn, s.2[place]? = some call ∧ come call = some turn ∧
      s.take place come =
        (s.1.leave call.lane turn.guard turn.scene, s.2.set place (call.take turn)) := by
  unfold take
  split
  · rename_i call hcall
    split
    · rename_i turn hcome
      exact .inr ⟨call, turn, hcall, hcome, rfl⟩
    · exact .inl rfl
  · exact .inl rfl

/-- Whether calls keep what they have to when they come to something. -/
def Faithful (Q : Except Fault α → Prop) (s : InUse ω α)
    (come : Held α → Option (Held.Turn α)) : Prop :=
  ∀ call turn, come call = some turn → call.Keeps Q →
    call.Kept Q (s.1.transport.connection call.lane) turn

theorem faithful_turn (hq : ∀ rejection, Q (.error (.circuitOpen rejection))) (s : InUse ω α)
    (now : Instant) : s.Faithful Q (s.turn? now) := fun _ _ ht h =>
  Guard.keeps_turn hq (Script.keeps_source ..) h ht

theorem faithful_drop (hq : ∀ rejection, Q (.error (.circuitOpen rejection))) (s : InUse ω α)
    (now : Instant) : s.Faithful Q (s.drop? now) := fun _ _ ht h =>
  Guard.keeps_drop hq (Script.keeps_source ..) h ht

theorem continues_take (h : s.Orderly) {come : Held α → Option (Held.Turn α)}
    (hcome : s.Faithful (fun _ => True) come) (place : Nat) :
    s.1.Continues (s.take place come).1 := by
  obtain heq | ⟨call, turn, hcall, ht, heq⟩ := s.take_cases place come
  · rw [heq]
    exact .refl s.1
  · rw [heq]
    have hholds : call.handle.Holds fun _ => True :=
      Guard.Handle.holds_of_forall (fun _ => trivial) call.handle
    have hkept := hcome call turn ht (h call (List.mem_of_getElem? hcall))
    exact s.1.continues_leave turn.guard fun hs => (hkept.2 hs hholds).2.2

theorem orderly_take (h : s.Orderly) {come : Held α → Option (Held.Turn α)}
    (hcome : s.Faithful (fun _ => True) come) (place : Nat) : (s.take place come).Orderly := by
  obtain heq | ⟨call, turn, hcall, ht, heq⟩ := s.take_cases place come
  · rw [heq]
    exact h
  · rw [heq]
    intro call' hmem
    rcases List.mem_or_eq_of_mem_set hmem with hmem | rfl
    · exact h call' hmem
    · exact (hcome call turn ht (h call (List.mem_of_getElem? hcall))).1

/-- **Every use of a client keeps what it has to.** -/
theorem continues_use (h : s.Orderly) (u : Use ω α) : s.1.Continues (s.use u).1 := by
  cases u with
  | run lane work hw =>
    obtain ⟨guard, connection, heq, hkept⟩ := Client.keeps_run (fun _ => trivial) s.1 lane
      fun n => (hw n).keeps
    simp only [use, heq]
    exact s.1.continues_leave guard fun hs => (hkept hs).2
  | collect lane subscriptions wanted polls hs =>
    obtain ⟨guard, connection, heq, hkept⟩ := Client.keeps_collect (fun _ => trivial) s.1 lane
      (fun n => (hs n).imp fun _ => Act.Within.keeps) wanted polls
    simp only [use, heq]
    exact s.1.continues_leave guard fun hs => (hkept hs).2
  | hold lane request hr => exact .refl s.1
  | turn place now => exact continues_take h (s.faithful_turn (fun _ => trivial) now) place
  | drop place now => exact continues_take h (s.faithful_drop (fun _ => trivial) now) place
  | command number work hw =>
    exact s.1.continues_changePubSub number fun _ shared hp => hp.run shared hw
  | listen number listener =>
    refine s.1.continues_changed number ?_
    exact fun _ hp => hp.attach _
  | watch number handler =>
    refine s.1.continues_changed number ?_
    exact fun _ hp => hp.attach _
  | settle steps => exact s.1.continues_settle steps
  | stop number => exact s.1.continues_changePubSub number fun _ shared hp => hp.stop shared
  | prepare lane act ha => exact s.1.continues_driven lane ha
  | drive number act ha =>
    refine s.1.continues_changed number ?_
    exact fun _ hp => hp.driven ha
  | refuse refuse =>
    refine ⟨rfl, rfl, rfl, rfl, fun hd => hd.of_eq (fun lane => ?_) rfl rfl⟩
    cases lane <;> rfl
  | change guard =>
    -- a call on any connection that leaves the connection alone
    have hshut : (s.1.transport.connection .text).Shut → (s.1.transport.connection .text).Shut := id
    exact s.1.continues_leave (guard s.1.guard) hshut

theorem orderly_use (h : s.Orderly) (u : Use ω α) : (s.use u).Orderly := by
  cases u with
  | hold lane request hr =>
    intro call hmem
    rcases List.mem_append.mp hmem with hmem | hmem
    · exact h call hmem
    · obtain rfl := List.mem_singleton.mp hmem
      exact Held.keeps_start lane (fun _ => Act.Within.keeps) hr
  | turn place now => exact orderly_take h (s.faithful_turn (fun _ => trivial) now) place
  | drop place now => exact orderly_take h (s.faithful_drop (fun _ => trivial) now) place
  | _ => exact h

/-! ### Calls that are refused -/

/-- Whether the call at a place has come to refusals only and will do so as long as connections stay
closed. -/
def Refuses (place : Nat) (s : InUse ω α) : Prop :=
  ∃ call, s.2[place]? = some call ∧ call.Keeps Refusal ∧ call.Holds Refusal

theorem refuses_take (hd : s.1.Down) {place : Nat} (h : s.Refuses place)
    {come : Held α → Option (Held.Turn α)} (hcome : s.Faithful Refusal come) (place' : Nat) :
    (s.take place' come).Refuses place := by
  obtain heq | ⟨call, turn, hcall, ht, heq⟩ := s.take_cases place' come
  · rw [heq]
    exact h
  · rw [heq]
    obtain ⟨call', hcall', hkeeps, hholds⟩ := h
    -- either it is the very call, or another one that leaves its place alone
    by_cases hplace : place' = place
    · subst hplace
      obtain rfl : call = call' := Option.some.inj (hcall.symm.trans hcall')
      have hkept := hcome call turn ht hkeeps
      have hholds' := Held.holds_take hkept hholds (hd (.connection call.lane))
      refine ⟨call.take turn, ?_, hkept.1, hholds'⟩
      exact List.getElem?_set_self (List.getElem?_eq_some_iff.mp hcall).1
    · refine ⟨call', ?_, hkeeps, hholds⟩
      exact (List.getElem?_set_ne hplace).trans hcall'

/-- **A call that is refused stays so**, whatever is done with the client meanwhile. -/
theorem refuses_use (hd : s.1.Down) {place : Nat} (h : s.Refuses place) (u : Use ω α) :
    (s.use u).Refuses place := by
  cases u with
  | hold lane request hr =>
    obtain ⟨call, hcall, hrest⟩ := h
    exact ⟨call, List.getElem?_append_left (List.getElem?_eq_some_iff.mp hcall).1 ▸ hcall, hrest⟩
  | turn place' now =>
    exact refuses_take hd h (s.faithful_turn refusal_circuitOpen now) place'
  | drop place' now =>
    exact refuses_take hd h (s.faithful_drop refusal_circuitOpen now) place'
  | _ => exact h

end InUse

end Client

end ClusterGuard
