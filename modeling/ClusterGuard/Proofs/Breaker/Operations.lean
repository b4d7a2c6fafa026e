import ClusterGuard.Breaker.Basic
import Mathlib.Algebra.Group.Nat.Defs

/-!
# What one operation does to a circuit breaker

A request is answered in one of five ways and an outcome is taken in one of five. `Requested` and
`Recorded` list them with their guards and their effects; what holds of every run of a breaker is
read off these two lists.

Results:
* **`requested`**: how a request is answered.
* **`recorded`**: what an outcome does.
* `Action.epoch_run`: an action begins a new epoch exactly when it makes a transition.
-/

namespace ClusterGuard

/-! ## The order of instants -/

namespace Duration

theorem le_rfl {d : Duration} : d ≤ d := Nat.le_refl _

theorem le_trans {a b c : Duration} (h : a ≤ b) (h' : b ≤ c) : a ≤ c := Nat.le_trans h h'

theorem self_le_add (t d : Duration) : t ≤ t + d := by
  have := t.le_max
  rw [le_iff, nanos_add]
  omega

theorem le_sub_iff {t wait now : Duration} (h : t ≤ now) :
    wait ≤ now - t ↔ t.nanos + wait.nanos ≤ now.nanos := by
  rw [le_iff] at h
  rw [le_iff, nanos_sub]
  omega

end Duration

namespace Breaker

variable {b : Breaker} {o : Outcome} {p : Permit}

/-! ## Transitions -/

@[simp] theorem state_enter (b : Breaker) (s : CircuitState) : (b.enter s).state = s := by
  cases s <;> rfl

@[simp] theorem inFlight_enter (b : Breaker) (s : CircuitState) : (b.enter s).inFlight = 0 := by
  cases s <;> rfl

@[simp] theorem epoch_enter (b : Breaker) (s : CircuitState) : (b.enter s).epoch = b.epoch + 1 := by
  cases s <;> rfl

@[simp] theorem config_enter (b : Breaker) (s : CircuitState) : (b.enter s).config = b.config := by
  cases s <;> rfl

@[simp] theorem clock_enter (b : Breaker) (s : CircuitState) : (b.enter s).clock = b.clock := by
  cases s <;> rfl

/-- Fewer than `2 ^ 64` transitions do not bring the epochs back to the same number. -/
theorem add_ofNat_eq_self_iff {epoch : UInt64} {n : Nat} (h : n < 2 ^ 64) :
    epoch + .ofNat n = epoch ↔ n = 0 := by
  constructor
  · intro he
    have hzero : UInt64.ofNat n = 0 := by simpa using he
    have hnat := congrArg UInt64.toNat hzero
    rwa [UInt64.toNat_ofNat_of_lt' h] at hnat
  · rintro rfl
    exact UInt64.add_zero epoch

theorem openFor_of_openedAt {since : Instant} (h : b.openedAt = some since) :
    b.openFor = b.clock - since := by
  unfold openFor
  rw [h]

/-! ## Requests -/

/-- The answer to a request, and the breaker afterwards. -/
inductive Requested (b : Breaker) : Except Rejection Permit × Breaker → Prop
  | closed (h : b.state = .closed) : Requested b (.ok ⟨b.epoch, false⟩, b)
  | waiting (h : b.state = .opened) (hw : ¬b.config.wait ≤ b.openFor) :
      Requested b (b.reject (some (b.config.wait - b.openFor)))
  | probed (h : b.state = .opened) (hw : b.config.wait ≤ b.openFor) :
      Requested b (.ok ⟨b.epoch + 1, true⟩, { b.enter .halfOpen with inFlight := 1 })
  | free (h : b.state = .halfOpen) (hn : b.inFlight < b.config.trials) :
      Requested b (.ok ⟨b.epoch, true⟩, { b with inFlight := b.inFlight + 1 })
  | full (h : b.state = .halfOpen) (hn : b.config.trials ≤ b.inFlight) :
      Requested b (b.reject none)

theorem request_of_waiting (h : b.state = .opened) (hw : ¬b.config.wait ≤ b.openFor) :
    b.request = b.reject (some (b.config.wait - b.openFor)) := if_pos ⟨h, Nat.lt_of_not_le hw⟩

theorem request_of_over (h : b.state = .opened) (hw : b.config.wait ≤ b.openFor)
    (ht : 0 < b.config.trials) :
    b.request = (.ok ⟨b.epoch + 1, true⟩, { b.enter .halfOpen with inFlight := 1 }) := by
  have hover : ¬(b.state = .opened ∧ b.openFor < b.config.wait) :=
    fun hb => Nat.not_lt_of_le hw hb.2
  have hp : b.probe = b.enter .halfOpen := if_pos ⟨h, hw⟩
  unfold request answer
  rw [if_neg hover, hp]
  simp [ht]

theorem request_of_halfOpen (h : b.state = .halfOpen) :
    b.request = if b.inFlight < b.config.trials then
      (.ok ⟨b.epoch, true⟩, { b with inFlight := b.inFlight + 1 }) else b.reject none := by
  have hopen : ¬(b.state = .opened ∧ b.openFor < b.config.wait) := by simp [h]
  have hp : b.probe = b := if_neg (by simp [h])
  unfold request answer
  rw [if_neg hopen, hp, h]

/-- **How a request is answered**, by a breaker that admits trial calls at all. -/
theorem requested (ht : 0 < b.config.trials) : Requested b b.request := by
  cases h : b.state with
  | closed =>
    rw [request_of_closed h]
    exact .closed h
  | opened =>
    by_cases hw : b.config.wait ≤ b.openFor
    · rw [request_of_over h hw ht]
      exact .probed h hw
    · rw [request_of_waiting h hw]
      exact .waiting h hw
  | halfOpen =>
    rw [request_of_halfOpen h]
    split
    · exact .free h ‹_›
    · exact .full h (Nat.le_of_not_lt ‹_›)

/-! ## Outcomes -/

/-- The breaker after an outcome of its current epoch. -/
inductive Recorded (b : Breaker) : Outcome → Breaker → Prop
  | kept (o : Outcome) (h : b.state = .closed)
      (ht : trips b.config (b.window.push b.config.window o) = false) :
      Recorded b o { b with window := b.window.push b.config.window o }
  | tripped (o : Outcome) (h : b.state = .closed)
      (ht : trips b.config (b.window.push b.config.window o) = true) :
      Recorded b o (b.enter .opened)
  | ignored (o : Outcome) (h : b.state = .opened) : Recorded b o b
  | succeeded (h : b.state = .halfOpen) : Recorded b .success (b.enter .closed)
  | failed (h : b.state = .halfOpen) : Recorded b .failure (b.enter .opened)

/-- **What an outcome does.** -/
theorem recorded (b : Breaker) (o : Outcome) : Recorded b o (b.record o) := by
  unfold record
  split
  · rename_i h
    simp only
    split
    · exact .tripped o h ‹_›
    · exact .kept o h (Bool.eq_false_iff.mpr ‹_›)
  · rename_i h
    exact .ignored o h
  · rename_i h
    cases o with
    | success => exact .succeeded h
    | failure => exact .failed h

/-- An open breaker takes no outcome. -/
theorem record_of_opened (h : b.state = .opened) (o : Outcome) : b.record o = b := by
  unfold record
  rw [h]

theorem finish_of_current (h : p.epoch = b.epoch) (o : Outcome) : b.finish p o = b.record o :=
  if_pos h

/-! ## Actions -/

/-- What can happen to a breaker, in one step of it. -/
inductive Action where
  | request
  | record (o : Outcome)
  | finish (p : Permit) (o : Outcome)
  | release (p : Permit)
  | reset
  | advance (d : Duration)
deriving DecidableEq

namespace Action

/-- The breaker after an action. -/
def run (b : Breaker) : Action → Breaker
  | request => b.request.2
  | record o => b.record o
  | finish p o => b.finish p o
  | release p => b.release p
  | reset => b.reset
  | advance d => b.advance d

/-- Whether an action makes a transition. Closing a closed circuit by hand is one, too. -/
def Shifts (b : Breaker) (a : Action) : Prop := a = .reset ∨ (a.run b).state ≠ b.state

instance (b : Breaker) (a : Action) : Decidable (a.Shifts b) := by unfold Shifts; infer_instance

end Action

theorem Requested.epoch {r : Except Rejection Permit × Breaker} (h : Requested b r) :
    r.2.epoch = if r.2.state = b.state then b.epoch else b.epoch + 1 := by
  cases h <;> simp_all [reject]

theorem Recorded.epoch {b' : Breaker} (h : Recorded b o b') :
    b'.epoch = if b'.state = b.state then b.epoch else b.epoch + 1 := by
  cases h <;> simp_all

theorem Requested.config {r : Except Rejection Permit × Breaker} (h : Requested b r) :
    r.2.config = b.config := by
  cases h <;> simp [reject]

theorem Requested.permit {r : Except Rejection Permit × Breaker} (h : Requested b r)
    (hp : r.1 = .ok p) : p = ⟨r.2.epoch, decide (r.2.state = .halfOpen)⟩ := by
  cases h <;> simp_all [reject]

theorem Recorded.config {b' : Breaker} (h : Recorded b o b') : b'.config = b.config := by
  cases h <;> simp

theorem config_finish (b : Breaker) (p : Permit) (o : Outcome) :
    (b.finish p o).config = b.config := by
  by_cases h : p.epoch = b.epoch
  · rw [finish_of_current h]
    exact (recorded b o).config
  · rw [finish_of_stale h]

theorem epoch_finish (b : Breaker) (p : Permit) (o : Outcome) :
    (b.finish p o).epoch = if (b.finish p o).state = b.state then b.epoch else b.epoch + 1 := by
  by_cases h : p.epoch = b.epoch
  · rw [finish_of_current h]
    exact (recorded b o).epoch
  · simp [finish_of_stale h]

@[simp] theorem state_release (b : Breaker) (p : Permit) : (b.release p).state = b.state := by
  unfold release
  split <;> rfl

@[simp] theorem window_release (b : Breaker) (p : Permit) : (b.release p).window = b.window := by
  unfold release
  split <;> rfl

@[simp] theorem openedAt_release (b : Breaker) (p : Permit) :
    (b.release p).openedAt = b.openedAt := by
  unfold release
  split <;> rfl

@[simp] theorem clock_release (b : Breaker) (p : Permit) : (b.release p).clock = b.clock := by
  unfold release
  split <;> rfl

@[simp] theorem config_release (b : Breaker) (p : Permit) : (b.release p).config = b.config := by
  unfold release
  split <;> rfl

@[simp] theorem epoch_release (b : Breaker) (p : Permit) : (b.release p).epoch = b.epoch := by
  unfold release
  split <;> rfl

/-- Apart from closing by hand, the epoch moves on exactly with the state. -/
theorem Action.epoch_run_of_ne_reset (ht : 0 < b.config.trials) {a : Action} (ha : a ≠ .reset) :
    (a.run b).epoch = if (a.run b).state = b.state then b.epoch else b.epoch + 1 := by
  cases a with
  | request => exact (requested ht).epoch
  | record o => exact (recorded b o).epoch
  | finish p o => exact epoch_finish b p o
  | release p =>
    change (b.release p).epoch = if (b.release p).state = b.state then b.epoch else b.epoch + 1
    simp
  | reset => exact absurd rfl ha
  | advance d => exact (if_pos rfl).symm

/-- **An action begins a new epoch exactly when it makes a transition.** -/
theorem Action.epoch_run (ht : 0 < b.config.trials) (a : Action) :
    (a.run b).epoch = if a.Shifts b then b.epoch + 1 else b.epoch := by
  by_cases ha : a = .reset
  · subst ha
    exact (epoch_enter b .closed).trans (if_pos (Or.inl rfl)).symm
  · rw [Action.epoch_run_of_ne_reset ht ha]
    simp only [Action.Shifts, ha, false_or, ne_eq, ite_not]

/-- No action changes the configuration. -/
theorem Action.config_run (ht : 0 < b.config.trials) (a : Action) :
    (a.run b).config = b.config := by
  cases a with
  | request => exact (requested ht).config
  | record o => exact (recorded b o).config
  | finish p o => exact config_finish b p o
  | release p => exact config_release b p
  | reset => exact config_enter b .closed
  | advance d => rfl

end Breaker

end ClusterGuard
