import ClusterGuard.Breaker.Config
import ClusterGuard.Breaker.Window

/-!
# Circuit breakers

Model of `CircuitBreaker` with its `BreakerState` and `Grant`: `request` is `grant` (`acquire`,
`try_acquire_permission`), `enter` is `transition`, `record` is `apply_outcome` (`record_outcome`,
`on_success`, `on_error`), `finish` is `record_granted` (`CallPermit`: `record`, `success`,
`failure`), `release` is `release` (a dropped `CallPermit`); `reset`, `reject` and `metrics` keep
their names. `generation` is `epoch`, and `clock` with `advance` is a `MockClock`. `recordTimes` is
many calls of `record` in one.

A closed breaker lets every call through and watches the window of their outcomes; when enough of
them are failures it opens. An open breaker rejects every call until its wait is over; the next
request then makes it half open. A half-open breaker admits a bounded number of trial calls, and
the first outcome decides: a success closes the circuit, a failure opens it again.

Every transition starts a new epoch; closing the circuit by hand is one even where it is closed.
A permit remembers the epoch it was granted in, and once that epoch has passed neither its outcome
nor its release has any effect. Epochs are numbered modulo `2 ^ 64`.

Results:
* `finish_of_stale`, `release_of_stale`: a permit of another epoch changes nothing.
* `request_of_closed`: a closed breaker grants every request and does not change.
-/

namespace ClusterGuard

/-- The three states of a circuit. -/
inductive CircuitState where
  | closed
  | opened
  | halfOpen
deriving DecidableEq

namespace CircuitState

/-- The state in messages. -/
def label : CircuitState → String
  | closed => "CLOSED"
  | opened => "OPEN"
  | halfOpen => "HALF_OPEN"

/-- The state in descriptions of values. -/
def text : CircuitState → String
  | closed => "Closed"
  | opened => "Open"
  | halfOpen => "HalfOpen"

end CircuitState

/-- Why a call was not let through. -/
structure Rejection where
  breaker : String
  state : CircuitState
  /-- How long the circuit stays open, where that is known. -/
  retryAfter : Option Duration
deriving DecidableEq

/-- The text of a rejection. -/
def Rejection.message (r : Rejection) : String :=
  "Circuit breaker '" ++ r.breaker ++ "' is " ++ r.state.label ++
    " and does not permit further calls"

namespace Breaker

/-- Permission to make one call. -/
structure Permit where
  epoch : UInt64
  /-- Whether the call takes up one of the trial slots. -/
  trial : Bool
deriving DecidableEq

/-- What a breaker reports about itself. -/
structure Metrics where
  state : CircuitState
  buffered : Nat
  failed : Nat
  /-- Absent until the minimum number of outcomes is kept. -/
  rate : Option (Binary .single)
  refused : Nat
deriving DecidableEq

end Breaker

/-- A circuit breaker together with the time its clock shows. -/
structure Breaker where
  name : String
  config : Breaker.Config
  clock : Instant
  state : CircuitState
  /-- The outcomes the failure rate is taken from. -/
  window : Breaker.Window
  /-- When the circuit last opened, unless it is closed. -/
  openedAt : Option Instant
  /-- How many trial slots are taken. -/
  inFlight : Nat
  /-- Every transition begins a new epoch. -/
  epoch : UInt64
  /-- How many calls were rejected so far. -/
  refused : Nat
deriving DecidableEq

namespace Breaker

/-- A closed breaker that has seen nothing. -/
def fresh (name : String) (config : Config) (clock : Instant) : Breaker where
  name := name
  config := config
  clock := clock
  state := .closed
  window := .empty
  openedAt := none
  inFlight := 0
  epoch := 0
  refused := 0

/-- A new breaker with a valid configuration. -/
def create (name : String) (config : Config) : Except ConfigError Breaker :=
  config.validate.map fun _ => fresh name config .zero

/-- Lets time pass on the breaker's clock. -/
def advance (b : Breaker) (d : Duration) : Breaker := { b with clock := b.clock + d }

/-- Makes a transition to a state (`transition`), which begins a new epoch. The window survives only
the way to half open, and so does the time the circuit opened. -/
def enter (b : Breaker) (target : CircuitState) : Breaker :=
  let b := { b with state := target, inFlight := 0, epoch := b.epoch + 1 }
  match target with
  | .opened => { b with openedAt := some b.clock, window := .empty }
  | .closed => { b with openedAt := none, window := .empty }
  | .halfOpen => b

/-- Closes the circuit with an empty window. -/
def reset (b : Breaker) : Breaker := b.enter .closed

/-! ## Permissions -/

/-- Rejects a call, counting the rejection. -/
def reject (b : Breaker) (retryAfter : Option Duration) : Except Rejection Permit × Breaker :=
  (.error ⟨b.name, b.state, retryAfter⟩, { b with refused := b.refused + 1 })

/-- How long ago the circuit opened; the longest time if that is not known. -/
def openFor (b : Breaker) : Duration :=
  match b.openedAt with
  | some since => b.clock - since
  | none => .longest

/-- Makes an open breaker half open once its wait is over. -/
def probe (b : Breaker) : Breaker :=
  if b.state = .opened ∧ b.config.wait ≤ b.openFor then b.enter .halfOpen else b

/-- Grants or rejects a call in the current state, with no more to say about an open circuit. -/
def answer (b : Breaker) : Except Rejection Permit × Breaker :=
  match b.state with
  | .closed => (.ok ⟨b.epoch, false⟩, b)
  | .opened => b.reject none
  | .halfOpen =>
    if b.inFlight < b.config.trials then
      (.ok ⟨b.epoch, true⟩, { b with inFlight := b.inFlight + 1 })
    else b.reject none

/-- Asks for permission to make one call (`grant`). An open breaker whose wait is not over says how
long it will be. -/
def request (b : Breaker) : Except Rejection Permit × Breaker :=
  if b.state = .opened ∧ b.openFor < b.config.wait then
    b.reject (some (b.config.wait - b.openFor))
  else b.probe.answer

/-! ## Outcomes -/

/-- Whether the outcomes kept are enough, and enough of them failures, to open the circuit. -/
def trips (c : Config) (w : Window) : Bool :=
  c.effectiveMinimum ≤ w.size && c.threshold.le w.rate

/-- Records an outcome that belongs to the current epoch (`apply_outcome`). -/
def record (b : Breaker) (o : Outcome) : Breaker :=
  match b.state with
  | .closed =>
    let b := { b with window := b.window.push b.config.window o }
    if trips b.config b.window then b.enter .opened else b
  | .opened => b
  | .halfOpen =>
    let b := { b with inFlight := b.inFlight - 1 }
    match o with
    | .success => b.enter .closed
    | .failure => b.enter .opened

/-- Whether a number of outcomes, some of them failures, opens the circuit. -/
def tripsAt (c : Config) (failures size : Nat) : Bool :=
  c.effectiveMinimum ≤ size && c.threshold.le (Window.rateOf failures size)

/-- Whether one of the next `n` outcomes of the same kind opens the circuit, if none is lost. -/
def tripsWithin (c : Config) (o : Outcome) : (n failures size : Nat) → Bool
  | 0, _, _ => false
  | n + 1, failures, size =>
    tripsAt c (failures + o.weight) (size + 1) ||
      tripsWithin c o n (failures + o.weight) (size + 1)

/-- Records the same outcome as often as there is room for it, all at once. -/
def fill (n : Nat) (o : Outcome) (b : Breaker) : Breaker :=
  if tripsWithin b.config o n b.window.failures b.window.size then b.enter .opened
  else { b with window := b.window.extend n o }

/-- Records the same outcome a number of times. A window with room takes what it can at once. -/
def recordTimes (n : Nat) (o : Outcome) (b : Breaker) : Breaker :=
  if b.state = .closed then
    let room := min n (b.config.window - b.window.size)
    (n - room).repeat (·.record o) (b.fill room o)
  else n.repeat (·.record o) b

/-- Records the outcome of a permitted call, unless its epoch has passed (`record_granted`). -/
def finish (b : Breaker) (p : Permit) (o : Outcome) : Breaker :=
  if p.epoch = b.epoch then b.record o else b

/-- Takes back a permit whose call ended without an outcome (`release`): a trial slot becomes free
again. -/
def release (b : Breaker) (p : Permit) : Breaker :=
  if p.trial ∧ p.epoch = b.epoch then { b with inFlight := b.inFlight - 1 } else b

/-! ## Reports -/

/-- What the breaker reports about itself. -/
def metrics (b : Breaker) : Metrics where
  state := b.state
  buffered := b.window.size
  failed := b.window.failures
  rate := if b.config.effectiveMinimum ≤ b.window.size then some b.window.rate else none
  refused := b.refused

/-- The description of a breaker. -/
def text (b : Breaker) : String :=
  recordText "CircuitBreaker" [
    ("name", quoted b.name), ("config", b.config.text), ("state", b.state.text)]

/-- The description of a permit of this breaker. -/
def permitText (b : Breaker) (p : Permit) : String :=
  recordText "CallPermit" [("breaker", quoted b.name), ("trial", boolText p.trial)]

/-! ## Small laws -/

theorem finish_of_stale {b : Breaker} {p : Permit} (h : p.epoch ≠ b.epoch) (o : Outcome) :
    b.finish p o = b := if_neg h

theorem release_of_stale {b : Breaker} {p : Permit} (h : p.epoch ≠ b.epoch) :
    b.release p = b := if_neg fun hp => h hp.2

theorem request_of_closed {b : Breaker} (h : b.state = .closed) :
    b.request = (.ok ⟨b.epoch, false⟩, b) := by
  have hopen : ¬(b.state = .opened ∧ b.openFor < b.config.wait) := by simp [h]
  have hp : b.probe = b := if_neg (by simp [h])
  unfold request answer
  rw [if_neg hopen, hp, h]

end Breaker

end ClusterGuard
