import ClusterGuard.Proofs.Breaker.Operations

/-!
# Outcomes in a row

A closed breaker whose window has room records a row of outcomes at once: it need only know whether
one of them opens the circuit, and the numbers of outcomes and of failures tell. This is a shorter
way to the breaker that recording them one after the other comes to.

Results:
* `record_of_room`: what a closed breaker does with an outcome that finds room.
* **`fill_eq`**: as long as there is room, outcomes can be recorded at once.
* **`recordTimes_eq`**: a row of outcomes comes to its outcomes, one after the other.
-/

namespace ClusterGuard.Breaker

variable {b : Breaker} {o : Outcome}

/-- Outcomes in a row, the first one taken off. -/
theorem repeat_record_succ (n : Nat) (o : Outcome) (b : Breaker) :
    (n + 1).repeat (·.record o) b = n.repeat (·.record o) (b.record o) := by
  induction n with
  | zero => rfl
  | succ n ih => exact congrArg (·.record o) ih

theorem repeat_record_add (m n : Nat) (o : Outcome) (b : Breaker) :
    (m + n).repeat (·.record o) b = n.repeat (·.record o) (m.repeat (·.record o) b) := by
  induction n with
  | zero => rfl
  | succ n ih => exact congrArg (·.record o) ih

theorem repeat_record_of_opened (h : b.state = .opened) (n : Nat) (o : Outcome) :
    n.repeat (·.record o) b = b := by
  induction n with
  | zero => rfl
  | succ n ih => rw [repeat_record_succ, record_of_opened h, ih]

theorem trips_eq (c : Config) (w : Window) : trips c w = tripsAt c w.failures w.size := by
  unfold trips tripsAt
  rw [Window.rate_eq]

/-- What a closed breaker does with an outcome that finds room. -/
theorem record_of_room (h : b.state = .closed) (hroom : b.window.size < b.config.window) :
    b.record o =
      if tripsAt b.config (b.window.failures + o.weight) (b.window.size + 1) then b.enter .opened
      else { b with window := b.window.extend 1 o } := by
  have hfailures : (b.window.extend 1 o).failures = b.window.failures + o.weight := by
    simp [Window.extend]
  unfold record
  rw [h]
  simp only [Window.push_of_lt hroom, trips_eq, Window.size_extend, hfailures]
  rfl

theorem fill_zero (o : Outcome) (b : Breaker) : b.fill 0 o = b := by
  unfold fill tripsWithin
  rw [if_neg Bool.false_ne_true, Window.extend_zero]

/-- Outcomes recorded at once, the first one taken off. -/
theorem fill_succ (n : Nat) (o : Outcome) (b : Breaker) :
    b.fill (n + 1) o =
      if tripsAt b.config (b.window.failures + o.weight) (b.window.size + 1) then b.enter .opened
      else ({ b with window := b.window.extend 1 o } : Breaker).fill n o := by
  have hfailures : (b.window.extend 1 o).failures = b.window.failures + o.weight := by
    simp [Window.extend]
  unfold fill
  by_cases ht : tripsAt b.config (b.window.failures + o.weight) (b.window.size + 1) = true
  · have hnow : tripsWithin b.config o (n + 1) b.window.failures b.window.size = true := by
      simp [tripsWithin, ht]
    rw [if_pos hnow, if_pos ht]
  · have hlater : tripsWithin b.config o (n + 1) b.window.failures b.window.size
        = tripsWithin b.config o n (b.window.failures + o.weight) (b.window.size + 1) := by
      simp [tripsWithin, ht]
    rw [if_neg ht, hlater]
    simp only [Window.size_extend, hfailures, ← Window.extend_succ]
    rfl

/-- **As long as there is room, outcomes can be recorded at once.** -/
theorem fill_eq (h : b.state = .closed) {n : Nat} (hroom : b.window.size + n ≤ b.config.window)
    (o : Outcome) : b.fill n o = n.repeat (·.record o) b := by
  induction n generalizing b with
  | zero => exact fill_zero o b
  | succ n ih =>
    rw [repeat_record_succ, fill_succ, record_of_room h (by omega)]
    split
    · rw [repeat_record_of_opened rfl]
    · refine ih h ?_
      simp only [Window.size_extend]
      omega

/-- **Outcomes recorded at once come to the same as one after the other.** -/
theorem recordTimes_eq (n : Nat) (o : Outcome) (b : Breaker) :
    b.recordTimes n o = n.repeat (·.record o) b := by
  unfold recordTimes
  split
  · rename_i h
    have hsplit : min n (b.config.window - b.window.size)
        + (n - min n (b.config.window - b.window.size)) = n := by omega
    have hfill : b.fill (min n (b.config.window - b.window.size)) o
        = (min n (b.config.window - b.window.size)).repeat (·.record o) b := by
      rcases Nat.lt_or_ge b.window.size b.config.window with hlt | hge
      · exact fill_eq h (by omega) o
      · -- A full window is left as it is.
        rw [Nat.sub_eq_zero_of_le hge, Nat.min_zero, fill_zero]
        rfl
    have hrow := repeat_record_add (min n (b.config.window - b.window.size))
      (n - min n (b.config.window - b.window.size)) o b
    rw [hsplit, ← hfill] at hrow
    exact hrow.symm
  · rfl

end ClusterGuard.Breaker
