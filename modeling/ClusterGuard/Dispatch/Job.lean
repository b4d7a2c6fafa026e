import ClusterGuard.Dispatch.Basic

/-!
# Jobs

Model of the plain futures that a `DispatchContext` is given.

The plainest tasks: a job gives way a number of times and then acts once; after that it has ended,
or stays without ever getting on.
-/

namespace ClusterGuard

/-- A task that acts once. -/
inductive Job (σ : Type) where
  /-- Gives way `yields` times before it acts. It stays if `act` says so. -/
  | ready (yields : Nat) (act : Desk σ → Bool × Desk σ)
  /-- Waits for something that never happens. -/
  | stuck

namespace Job

variable {σ : Type}

/-- Runs a job up to its next pause. -/
def poll : Job σ → Desk σ → Option (Job σ) × Desk σ
  | ready (yields + 1) act, desk => (some (ready yields act), desk)
  | ready 0 act, desk =>
    let (stays, desk) := act desk
    (if stays then some stuck else none, desk)
  | stuck, desk => (some stuck, desk)

/-- Jobs as tasks of a dispatch context. -/
def conduct (σ : Type) : Dispatch.Conduct σ (Job σ) where
  due _ job _ := match job with
    | ready .. => true
    | stuck => false
  poll _ := poll
  wakesAt? _ := none
  drop _ world := world

end Job

end ClusterGuard
