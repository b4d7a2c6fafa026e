import ClusterGuard.Number.Binary

/-!
# Sliding windows of outcomes

Model of `SlidingWindow`: `push`, `len` (`size`), `failure_rate` (`rate`), `clear` (`empty`).

A window keeps the latest outcomes, oldest first, and counts the failures among them as they come
and go.

Results:
* `failures_push`: the count stays the number of failures kept.
* `outcomes_push`: pushing keeps the latest `capacity` outcomes.
* `push_of_lt`: a window that is not full loses nothing.
-/

namespace ClusterGuard.Breaker

/-- How a protected call ended. -/
inductive Outcome where
  | success
  | failure
deriving DecidableEq

/-- What an outcome adds to the number of failures. -/
def Outcome.weight : Outcome → Nat
  | success => 0
  | failure => 1

/-- The latest outcomes, oldest first, and the number of failures among them. -/
structure Window where
  outcomes : List Outcome
  failures : Nat
deriving DecidableEq

namespace Window

/-- The window that has seen nothing. -/
def empty : Window := ⟨[], 0⟩

/-- How many outcomes are kept. -/
def size (w : Window) : Nat := w.outcomes.length

/-- Drops the oldest outcome of a full window. -/
def evict (capacity : Nat) (w : Window) : Window :=
  match w.outcomes with
  | [] => w
  | oldest :: rest => if w.size = capacity then ⟨rest, w.failures - oldest.weight⟩ else w

/-- Takes one more outcome, at the expense of the oldest one when the window is full. -/
def push (capacity : Nat) (w : Window) (o : Outcome) : Window :=
  let kept := w.evict capacity
  ⟨kept.outcomes ++ [o], kept.failures + o.weight⟩

/-- The window with more outcomes of one kind, none of which takes the place of another. -/
def extend (n : Nat) (o : Outcome) (w : Window) : Window :=
  ⟨w.outcomes ++ List.replicate n o, w.failures + n * o.weight⟩

/-- The failure rate in percent, zero for an empty window. -/
def rate (w : Window) : Binary .single :=
  if w.outcomes.isEmpty then .zero false
  else ((Binary.ofNat _ w.failures).mul (.ofNat _ 100)).div (.ofNat _ w.size)

/-- The failure rate in percent of a number of outcomes, some of them failures. -/
def rateOf (failures size : Nat) : Binary .single :=
  if size = 0 then .zero false
  else ((Binary.ofNat _ failures).mul (.ofNat _ 100)).div (.ofNat _ size)

/-- The failure count is the number of failures kept. -/
def Counted (w : Window) : Prop := w.failures = w.outcomes.count .failure

theorem rate_eq (w : Window) : w.rate = rateOf w.failures w.size := by
  rcases w with ⟨outcomes, failures⟩
  cases outcomes <;> rfl

theorem failures_empty : empty.Counted := rfl

theorem count_singleton (o : Outcome) : [o].count .failure = o.weight := by
  cases o <;> rfl

theorem failures_evict {w : Window} (h : w.Counted) (capacity : Nat) :
    (w.evict capacity).Counted := by
  unfold evict
  split
  · exact h
  · rename_i oldest rest heq
    split
    · simp only [Counted, heq] at h ⊢
      rw [← List.singleton_append, List.count_append, count_singleton] at h
      omega
    · exact h

theorem failures_push {w : Window} (h : w.Counted) (capacity : Nat) (o : Outcome) :
    (w.push capacity o).Counted := by
  have he := failures_evict h capacity
  simp only [Counted, push, List.count_append, count_singleton] at he ⊢
  omega

theorem outcomes_push {w : Window} {capacity : Nat} (hc : 0 < capacity) (h : w.size ≤ capacity)
    (o : Outcome) :
    (w.push capacity o).outcomes
      = (w.outcomes ++ [o]).drop ((w.outcomes ++ [o]).length - capacity) := by
  rcases w with ⟨outcomes, failures⟩
  cases outcomes with
  | nil =>
    have : 1 - capacity = 0 := by omega
    simp [push, evict, this]
  | cons oldest rest =>
    simp only [size, List.length_cons] at h
    simp only [push, evict, size, List.length_cons, List.length_append, List.length_nil]
    by_cases he : rest.length + 1 = capacity
    · have : rest.length + 1 + (0 + 1) - capacity = 1 := by omega
      simp [he]
    · have : rest.length + 1 + (0 + 1) - capacity = 0 := by omega
      simp [he, this]

theorem size_extend (n : Nat) (o : Outcome) (w : Window) : (w.extend n o).size = w.size + n := by
  simp [extend, size]

theorem extend_zero (o : Outcome) (w : Window) : w.extend 0 o = w := by
  simp [extend]

theorem extend_succ (n : Nat) (o : Outcome) (w : Window) :
    w.extend (n + 1) o = (w.extend 1 o).extend n o := by
  have hfailures : w.failures + (n + 1) * o.weight = w.failures + 1 * o.weight + n * o.weight := by
    rw [Nat.add_comm n, Nat.add_mul, Nat.add_assoc]
  unfold extend
  rw [hfailures, List.append_assoc, List.replicate_append_replicate, Nat.add_comm n]

theorem push_of_lt {w : Window} {capacity : Nat} (h : w.size < capacity) (o : Outcome) :
    w.push capacity o = w.extend 1 o := by
  have hkeep : w.evict capacity = w := by
    unfold evict
    split
    · rfl
    · exact if_neg (Nat.ne_of_lt h)
  unfold push extend
  rw [hkeep, Nat.one_mul]
  rfl

end Window

end ClusterGuard.Breaker
