import ClusterGuard.Guard.Basic
import ClusterGuard.Stream.Source

/-!
# Blocking calls, one step at a time

`Guard.run` takes a blocking call from its beginning to its end. Other threads do not wait that
long: they may come in after the call was let through, between two attempts, and between the last
attempt, the count of the call and the outcome handed to the breaker. Here the same call is taken in
the steps between which that can happen.

Results:
* **`runs_run`**: without interference the steps come to what `Guard.run` does.
-/

namespace ClusterGuard.Guard

open Breaker (Permit)

variable {σ α : Type}

/-- Where a blocking call stands that has not returned. -/
inductive Blocking.Stage (α : Type) where
  | unstarted
  /-- Let through; `made` attempts have failed. -/
  | working (permit : Permit) (made : Nat) (waited : Duration)
  /-- The last attempt is over. -/
  | returning (permit : Permit) (ending : Retry.Ending Fault α)
  /-- The call was counted. -/
  | counted (permit : Permit) (ending : Retry.Ending Fault α)

/-- A blocking call that has not returned. -/
structure Blocking (σ α : Type) where
  work : Nat → Act σ Cause α
  /-- What a wait between attempts does to the surroundings. -/
  pause : Duration → σ → σ
  stage : Blocking.Stage α

namespace Blocking

/-- A blocking call that has not begun. -/
def start (work : Nat → Act σ Cause α) (pause : Duration → σ → σ) : Blocking σ α :=
  ⟨work, pause, .unstarted⟩

/-- What follows attempt number `made`, which has ended with this result. -/
def next (c : Blocking σ α) (g : Guard) (permit : Permit) (made : Nat) (waited : Duration) :
    Except Fault α → σ → Blocking σ α × σ
  | .ok value, s => ({ c with stage := .returning permit ⟨.ok value, made + 1, waited⟩ }, s)
  | .error error, s =>
    match g.retry.verdict error (made + 1), g.retry.left made with
    | .wait d, _ + 1 =>
      ({ c with stage := .working permit (made + 1) (waited + d) },
        if d.isZero then s else c.pause d s)
    | _, _ => ({ c with stage := .returning permit ⟨.error error, made + 1, waited⟩ }, s)

/-- Takes a blocking call one step further. -/
def step (c : Blocking σ α) (g : Guard) (s : σ) :
    Progress (Blocking σ α) (Answer α) × Guard × σ :=
  match c.stage with
  | .unstarted =>
    match g.breaker.request with
    | (.error rejection, breaker) =>
      (.ready ⟨.error (.circuitOpen rejection), 0⟩, { g with breaker }, s)
    | (.ok permit, breaker) =>
      (.pending { c with stage := .working permit 0 .zero }, { g with breaker }, s)
  | .working permit made waited =>
    let (result, s) := reported c.work made s
    let (c, s) := c.next g permit made waited result s
    (.pending c, g, s)
  | .returning permit ending =>
    (.pending { c with stage := .counted permit ending },
      { g with retry := g.retry.count (Retry.succeeded ending.result) ending.attempts }, s)
  | .counted permit ending =>
    (.ready ⟨ending.result, ending.attempts⟩,
      { g with breaker := g.breaker.finish permit (.of ending.result) }, s)

/-- A call, taken to its end step by step without interference. -/
inductive Runs : Blocking σ α → Guard → σ → Answer α × Guard × σ → Prop
  | done {c : Blocking σ α} {g g' : Guard} {s s' : σ} {answer : Answer α}
      (h : c.step g s = (.ready answer, g', s')) : Runs c g s (answer, g', s')
  | more {c c' : Blocking σ α} {g g' : Guard} {s s' : σ} {r : Answer α × Guard × σ}
      (h : c.step g s = (.pending c', g', s')) (hr : Runs c' g' s' r) : Runs c g s r

/-- The call is counted, and then the outcome handed in. -/
theorem runs_returning (work : Nat → Act σ Cause α) (pause : Duration → σ → σ) (g : Guard)
    (s : σ) (permit : Permit) (ending : Retry.Ending Fault α) :
    Runs ⟨work, pause, .returning permit ending⟩ g s
      (⟨ending.result, ending.attempts⟩,
        ⟨g.breaker.finish permit (.of ending.result),
          g.retry.count (Retry.succeeded ending.result) ending.attempts⟩, s) :=
  .more rfl (.done rfl)

section Steps

variable {work : Nat → Act σ Cause α} {pause : Duration → σ → σ} {g : Guard} {permit : Permit}
  {made : Nat} {waited : Duration} {s s' : σ}

theorem step_working {c : Blocking σ α} (hc : c.stage = .working permit made waited)
    {result : Except Fault α} (hw : reported c.work made s = (result, s')) :
    c.step g s = (.pending (c.next g permit made waited result s').1, g,
      (c.next g permit made waited result s').2) := by
  unfold step
  rw [hc]
  simp only [hw]

/-- Nothing follows the last attempt allowed. -/
theorem next_of_last (c : Blocking σ α) (h : g.retry.left made = 0) (result : Except Fault α) :
    c.next g permit made waited result s
      = ({ c with stage := .returning permit ⟨result, made + 1, waited⟩ }, s) := by
  cases result with
  | ok value => rfl
  | error error =>
    simp only [next, h]
    cases g.retry.verdict error (made + 1) <;> rfl

/-- Nothing follows where the retry gives up. -/
theorem next_of_giveUp (c : Blocking σ α) {error : Fault}
    (h : g.retry.verdict error (made + 1) = .giveUp) :
    c.next g permit made waited (.error error) s
      = ({ c with stage := .returning permit ⟨.error error, made + 1, waited⟩ }, s) := by
  simp only [next, h]

theorem next_of_wait (c : Blocking σ α) {error : Fault} {d : Duration} {left : Nat}
    (h : g.retry.verdict error (made + 1) = .wait d) (hleft : g.retry.left made = left + 1) :
    c.next g permit made waited (.error error) s
      = ({ c with stage := .working permit (made + 1) (waited + d) },
          if d.isZero then s else c.pause d s) := by
  simp only [next, h, hleft]

end Steps

/-- The attempts of a call are those of its retry. -/
theorem runs_pursue (work : Nat → Act σ Cause α) (pause : Duration → σ → σ) (g : Guard)
    (permit : Permit) (left made : Nat) (waited : Duration) (s : σ)
    (hleft : g.retry.left made = left) :
    let (ending, s') := g.retry.pursue (reported work) pause left made waited s
    Runs ⟨work, pause, .working permit made waited⟩ g s
      (⟨ending.result, ending.attempts⟩,
        ⟨g.breaker.finish permit (.of ending.result),
          g.retry.count (Retry.succeeded ending.result) ending.attempts⟩, s') := by
  induction left generalizing made waited s with
  | zero =>
    unfold Retry.pursue
    rcases hw : reported work made s with ⟨result, s₁⟩
    refine .more (step_working rfl hw) ?_
    rw [next_of_last _ hleft]
    exact runs_returning ..
  | succ left ih =>
    have hnext : g.retry.left (made + 1) = left := by
      unfold Retry.left at hleft ⊢
      omega
    unfold Retry.pursue
    rcases hw : reported work made s with ⟨result, s₁⟩
    cases result with
    | ok value => exact .more (step_working rfl hw) (runs_returning ..)
    | error error =>
      cases hv : g.retry.verdict error (made + 1) with
      | giveUp =>
        simp only [hv]
        refine .more (step_working rfl hw) ?_
        rw [next_of_giveUp _ hv]
        exact runs_returning ..
      | wait d =>
        simp only [hv]
        refine .more (step_working rfl hw) ?_
        rw [next_of_wait _ hv hleft]
        exact ih (made + 1) (waited + d) _ hnext

/-- **Without interference the steps come to the run of the guard.** -/
theorem runs_run (g : Guard) (work : Nat → Act σ Cause α) (pause : Duration → σ → σ) (s : σ) :
    (start work pause).Runs g s (g.run work pause s) := by
  unfold Guard.run
  rcases hr : g.breaker.request with ⟨answer, breaker⟩
  cases answer with
  | error rejection =>
    refine .done ?_
    simp only [step, start, hr]
  | ok permit =>
    have hstep : (start work pause).step g s = (.pending ⟨work, pause, .working permit 0 .zero⟩,
        { g with breaker }, s) := by
      simp only [step, start, hr]
    exact .more hstep (runs_pursue work pause { g with breaker } permit _ 0 .zero s rfl)

end Blocking

end ClusterGuard.Guard
