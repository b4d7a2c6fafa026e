import ClusterGuard.Fault
import ClusterGuard.Time.Timer

/-!
# Dispatch contexts

Model of `DispatchContext`: `spawn`, `shutdown` (`shutDown`), and the loop of its thread (`turn`,
`step?`, `settle`), in which a task may call `shutdown` too (`Desk.stop`). `is_shut_down` is
`accepting`, the other way about.

A dispatch context runs its tasks one at a time, in turns: each turn polls, in the order in which
they were spawned, the tasks that can get on. When none can, time moves on to the next timer. A
context that was shut down takes no further task. Shut down from outside, it drops its tasks at
once; shut down by one of its own tasks, it first lets those finish that can get on.

Results:
* `spawn_of_stopped`: a context that was shut down refuses every task.
* `settle_of_idle`: a context whose tasks cannot get on stays as it is.
-/

namespace ClusterGuard

/-- What a running task sees: the context it runs on, and the surroundings. -/
structure Desk (σ : Type) where
  context : String
  /-- Whether the context takes further tasks. -/
  accepting : Bool
  world : σ

/-- Shuts the context down from within one of its tasks. -/
def Desk.stop {σ : Type} (d : Desk σ) : Desk σ := { d with accepting := false }

/-- Changes the surroundings. -/
def Desk.map {σ : Type} (f : σ → σ) (d : Desk σ) : Desk σ := { d with world := f d.world }

namespace Dispatch

/-- Whether a context may take a task. -/
def entry (name : String) (accepting : Bool) : Except Fault Unit :=
  if accepting then .ok () else .error (.shutDown name)

/-- How tasks `τ` act. -/
structure Conduct (σ τ : Type) where
  /-- Whether a task can get on. -/
  due : Instant → τ → σ → Bool
  /-- Runs a task as far as it gets; nothing is left of one that has ended. -/
  poll : Instant → τ → Desk σ → Option τ × Desk σ
  /-- When the wait of a task is over, if it is waiting. -/
  wakesAt? : τ → Option Instant
  /-- What dropping a task does to the surroundings. -/
  drop : τ → σ → σ

end Dispatch

/-- A dispatch context and its tasks, in the order in which they were spawned. -/
structure Dispatch (τ : Type) where
  name : String
  accepting : Bool := true
  now : Instant := .zero
  tasks : List τ := []

namespace Dispatch

variable {σ τ : Type}

/-- Adds a task, unless the context was shut down. -/
def spawn (t : τ) (d : Dispatch τ) : Except Fault (Dispatch τ) :=
  (entry d.name d.accepting).map fun _ => { d with tasks := d.tasks ++ [t] }

/-- Drops every task. -/
def clear (c : Conduct σ τ) (d : Dispatch τ) (world : σ) : Dispatch τ × σ :=
  ({ d with tasks := [] }, d.tasks.foldl (fun world t => c.drop t world) world)

/-- Shuts the context down from outside. -/
def shutDown (c : Conduct σ τ) (d : Dispatch τ) (world : σ) : Dispatch τ × σ :=
  { d with accepting := false }.clear c world

/-- Polls, in order, the tasks that can get on. -/
def turn (c : Conduct σ τ) (now : Instant) : List τ → Desk σ → List τ × Desk σ
  | [], desk => ([], desk)
  | t :: ts, desk =>
    if c.due now t desk.world then
      let (left, desk) := c.poll now t desk
      let (ts, desk) := turn c now ts desk
      (left.toList ++ ts, desk)
    else
      let (ts, desk) := turn c now ts desk
      (t :: ts, desk)

/-- Whether some task can get on. -/
def isDue (c : Conduct σ τ) (d : Dispatch τ) (world : σ) : Bool :=
  d.tasks.any fun t => c.due d.now t world

/-- The next instant at which a wait is over. -/
def nextTimer (c : Conduct σ τ) (d : Dispatch τ) : Option Instant :=
  (d.tasks.filterMap c.wakesAt?).foldl (fun best t => match best with
    | none => some t
    | some b => some (if t < b then t else b)) none

/-- One step towards rest: a turn, or the end of a context that was shut down, or a move of time to
the next timer. Nothing is left to do where there is no step. -/
def step? (c : Conduct σ τ) (d : Dispatch τ) (world : σ) : Option (Dispatch τ × σ) :=
  if d.isDue c world then
    let (tasks, desk) := turn c d.now d.tasks ⟨d.name, d.accepting, world⟩
    some ({ d with tasks, accepting := desk.accepting }, desk.world)
  else if d.tasks.isEmpty then none
  else if d.accepting then (d.nextTimer c).map fun now => ({ d with now }, world)
  else some (d.clear c world)

/-- Lets the tasks run until none can get on, in at most `steps` steps. -/
def settle (c : Conduct σ τ) : (steps : Nat) → Dispatch τ → σ → Dispatch τ × σ
  | 0, d, world => (d, world)
  | steps + 1, d, world =>
    match d.step? c world with
    | none => (d, world)
    | some (d, world) => settle c steps d world

theorem spawn_of_stopped {d : Dispatch τ} (h : d.accepting = false) (t : τ) :
    d.spawn t = .error (.shutDown d.name) := by
  simp [spawn, entry, h, Except.map]

theorem settle_of_idle {c : Conduct σ τ} {d : Dispatch τ} {world : σ}
    (h : d.step? c world = none) (steps : Nat) : settle c steps d world = (d, world) := by
  cases steps <;> simp [settle, h]

end Dispatch

end ClusterGuard
