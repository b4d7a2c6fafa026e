import ClusterGuard.Proofs.Guard.Blocking
import ClusterGuard.Proofs.Guard.Invocations
import ClusterGuard.Proofs.Guard.Ledger

/-!
# Many callers of one guard

`Traffic` is a guard with all its callers: blocking calls, held calls and streams that overlap in
any way. An `Event` creates a call, gives one call its turn, drops one, or belongs to no call:
somebody uses the breaker directly, time passes, chance gives new jitter, the surroundings change. A
turn is one poll of a held call or a stream, or one step of a blocking call; what happens inside of
one is not divided further.

Every caller does what the guard lets it do; the ledger only writes down, turn by turn, what that
was. The journal is kept by the work and the subscriptions themselves.
-/

namespace ClusterGuard.Guard

open Breaker (Permit Action)

variable {σ τ α : Type}

/-! ## One call -/

/-- What the holder of a call has in hands. -/
inductive Handle (σ τ α : Type) where
  | blocking (call : Blocking σ α)
  | future (call : Guard.Call σ α)
  | stream (call : Gated (Retrying τ))
  /-- A call that has delivered its last result and was given up. -/
  | finished
  /-- A call that was given up before that. -/
  | dropped

/-- What a call comes to when it has its turn or is dropped. -/
structure Turn (σ τ α : Type) where
  handle : Handle σ τ α
  /-- The result delivered, if there is one. -/
  result : Option (Except Fault α)
  deeds : List Deed
  guard : Guard
  scene : σ

/-- What a call does that ends: it is counted, and its outcome handed in. -/
def closing (permit : Permit) : Option (Bool × Nat) → List Deed
  | none => []
  | some (succeeded, attempts) =>
    [.count succeeded attempts, .settle permit (if succeeded then .success else .failure)]

/-- What a call does in one poll: it asks for a permit if it holds none, and closes if it ends. -/
def polling (held : Option Permit) (answer : Except Rejection Permit)
    (ended : Option (Bool × Nat)) : List Deed :=
  match held, answer with
  | some permit, _ => closing permit ended
  | none, .ok permit => .ask (.ok permit) :: closing permit ended
  | none, .error rejection => [.ask (.error rejection)]

/-- The turn of a blocking call. -/
def Blocking.turn (call : Blocking σ α) (g : Guard) (s : σ) : Turn σ τ α :=
  let deeds := match call.stage with
    | .unstarted => [.ask g.breaker.request.1]
    | .working .. => []
    | .returning _ ending => [.count (Retry.succeeded ending.result) ending.attempts]
    | .counted permit ending => [.settle permit (.of ending.result)]
  match call.step g s with
  | (.pending call, g, s) => ⟨.blocking call, none, deeds, g, s⟩
  | (.ready answer, g, s) => ⟨.finished, some answer.result, deeds, g, s⟩

/-- The permit of a held call. -/
def Call.permit? : Guard.Call σ α → Option Permit
  | unstarted _ => none
  | admitted permit _ => some permit

/-- What a poll of a held call came to, with the deeds that belong to its end. -/
def Call.turned (deeds : Option (Bool × Nat) → List Deed) :
    Progress (Guard.Call σ α) (Answer α) × Guard × σ → Turn σ τ α
  | (.pending call, g, s) => ⟨.future call, none, deeds none, g, s⟩
  | (.ready answer, g, s) =>
    ⟨.finished, some answer.result,
      deeds (some (Retry.succeeded answer.result, answer.attempts)), g, s⟩

/-- The turn of a held call. -/
def Call.turn (call : Guard.Call σ α) (g : Guard) (now : Instant) (s : σ) : Turn σ τ α :=
  Call.turned (polling call.permit? g.breaker.request.1) (call.poll g now s)

/-- What a poll of a stream came to, with the deeds that belong to its end. -/
def Stream.turned (deeds : Option (Bool × Nat) → List Deed) :
    Signal Fault α × Gated (Retrying τ) × Guard × σ → Turn σ τ α
  | (.pending, call, g, s) => ⟨.stream call, none, deeds none, g, s⟩
  | (.value a, call, g, s) => ⟨.stream call, some (.ok a), deeds none, g, s⟩
  | (.failure e, call, g, s) =>
    ⟨.stream call, some (.error e), deeds (some (false, call.inner.attempts)), g, s⟩
  | (.ended, call, g, s) =>
    ⟨.stream call, none, deeds (some (true, call.inner.attempts)), g, s⟩

/-- The turn of a stream. One that is done does nothing any more. -/
def Stream.turn (inner : Source σ τ Fault α) (call : Gated (Retrying τ)) (g : Guard)
    (now : Instant) (s : σ) : Turn σ τ α :=
  let deeds := match call.gate with
    | .pending => polling none g.breaker.request.1
    | .admitted permit => polling (some permit) g.breaker.request.1
    | .done => fun _ => []
  Stream.turned deeds ((sourceOf inner now).poll call (g, s))

namespace Handle

/-- The turn of a call that is in somebody's hands. -/
def turn? (inner : Source σ τ Fault α) (g : Guard) (now : Instant) (s : σ) :
    Handle σ τ α → Option (Turn σ τ α)
  | blocking call => some (call.turn g s)
  | future call => some (call.turn g now s)
  | stream call => some (Stream.turn inner call g now s)
  | finished | dropped => none

/-- Drops a call. A blocking call is dropped when its work does not return. -/
def drop? (inner : Source σ τ Fault α) (g : Guard) (now : Instant) (s : σ) :
    Handle σ τ α → Option (Turn σ τ α)
  | blocking call =>
    match call.stage with
    | .unstarted => some ⟨.dropped, none, [], g, s⟩
    | .working permit .. =>
      some ⟨.dropped, none, [.release permit], { g with breaker := g.breaker.release permit }, s⟩
    | _ => none
  | future call =>
    let deeds := match call with
      | .unstarted _ => []
      | .admitted permit _ => [.release permit]
    some ⟨.dropped, none, deeds, call.abandon g, s⟩
  | stream call =>
    let (g, s) := (Guard.sourceOf inner now).drop call (g, s)
    match call.gate with
    | .pending => some ⟨.dropped, none, [], g, s⟩
    | .admitted permit => some ⟨.dropped, none, [.release permit], g, s⟩
    | .done => some ⟨.finished, none, [], g, s⟩
  | finished | dropped => none

end Handle

/-- A call in traffic. -/
structure Caller (σ τ α : Type) where
  handle : Handle σ τ α
  /-- Whether it delivers its results one by one. -/
  streams : Bool
  /-- Whether it has had a turn. -/
  begun : Bool
  /-- What it has delivered. -/
  results : List (Except Fault α)

/-- The call after a turn. -/
def Caller.take (c : Caller σ τ α) (turn : Turn σ τ α) (begun : Bool) : Caller σ τ α :=
  { c with handle := turn.handle, begun, results := c.results ++ turn.result.toList }

theorem Caller.take_of_none {c : Caller σ τ α} {turn : Turn σ τ α} (h : turn.result = none)
    (begun : Bool) : c.take turn begun = { c with handle := turn.handle, begun } := by
  simp [Caller.take, h]

/-! ## All calls -/

/-- What happens to a guard and its callers. -/
inductive Event (σ τ α : Type) where
  | block (work : Nat → Act σ Cause α) (pause : Duration → σ → σ)
  | future (work : Work σ Cause α)
  | stream (subscribe : Nat → τ)
  /-- The call at this place has its turn. -/
  | turn (place : Nat)
  | drop (place : Nat)
  | direct (a : Action)
  | redraw (draw : Nat → Binary .double)
  | tick (d : Duration)
  | stir (change : σ → σ)

/-- A guard with all its callers, present and past. -/
structure Traffic (σ τ α : Type) where
  guard : Guard
  scene : Scene σ
  /-- What the timers show. The breaker has a clock of its own. -/
  now : Instant
  callers : List (Caller (Scene σ) (Option Invocation × τ) α)
  ledger : List Entry

namespace Traffic

/-- A guard without callers. -/
def start (g : Guard) (around : σ) (now : Instant) : Traffic σ τ α := ⟨g, ⟨around, []⟩, now, [], []⟩

/-- One more call, which nobody has run or polled. -/
def join (t : Traffic σ τ α) (handle : Handle (Scene σ) (Option Invocation × τ) α)
    (streams : Bool) : Traffic σ τ α :=
  { t with callers := t.callers ++ [⟨handle, streams, false, []⟩] }

/-- What a call came to is written down. -/
def take (t : Traffic σ τ α) (place : Nat) (c : Caller (Scene σ) (Option Invocation × τ) α)
    (turn : Turn (Scene σ) (Option Invocation × τ) α) (begun : Bool) : Traffic σ τ α :=
  { t with
    guard := turn.guard
    scene := turn.scene
    callers := t.callers.set place (c.take turn begun)
    ledger := t.ledger ++ entries (some place) t.guard turn.deeds }

/-- A deed of no call. -/
def foreign (t : Traffic σ τ α) (d : Deed) : Traffic σ τ α :=
  { t with guard := d.run t.guard, ledger := t.ledger ++ entries none t.guard [d] }

/-- The traffic after an event. -/
def step (inner : Source σ τ Fault α) (t : Traffic σ τ α) : Event σ τ α → Traffic σ τ α
  | .block work pause =>
    let place := t.callers.length
    t.join (.blocking (.start (fun n => (work n).noted ⟨place, n⟩)
      fun d s => { s with around := pause d s.around })) false
  | .future work =>
    let place := t.callers.length
    t.join (.future (.unstarted fun n => ⟨(work n).waits, (work n).run.noted ⟨place, n⟩⟩)) false
  | .stream subscribe =>
    let place := t.callers.length
    t.join (.stream (.start (.start fun n => (some ⟨place, n⟩, subscribe n)))) true
  | .turn place =>
    match t.callers[place]? with
    | some c =>
      match c.handle.turn? inner.noted t.guard t.now t.scene with
      | some turn => t.take place c turn true
      | none => t
    | none => t
  | .drop place =>
    match t.callers[place]? with
    | some c =>
      match c.handle.drop? inner.noted t.guard t.now t.scene with
      | some turn => t.take place c turn c.begun
      | none => t
    | none => t
  | .direct a => t.foreign (.direct a)
  | .redraw draw => t.foreign (.redraw draw)
  | .tick d => { t with now := t.now + d }
  | .stir change => { t with scene := { t.scene with around := change t.scene.around } }

/-- The traffic after a run of events. -/
def run (inner : Source σ τ Fault α) (t : Traffic σ τ α) (events : List (Event σ τ α)) :
    Traffic σ τ α := events.foldl (step inner) t

end Traffic

end ClusterGuard.Guard
