import ClusterGuard.Proofs.Guard.Punctual
import ClusterGuard.Proofs.Retry.Jitter

/-!
# Short waits

Nothing has to be assumed of timers if no wait is longer than thirty years. A retry is `Brief` if
none of its waits is; what its calls wait for is decided by its configuration and its policy, which
no poll changes. So a session with brief retries stays brief unless somebody exchanges them, and its
calls take at least the sum of their waits.

Results:
* `Backoff.delay_le_cap`: waits with jitter are not longer than the cap, up to ninety-seven days.
* `brief_of_no_jitter`, `brief_of_jitter`: which retries are brief.
* `Machine.brief_poll`, `brief_step`, `brief_run`: a session stays brief.
* **`elapsed_of_brief`**: a call ends no earlier than the sum of its waits after its first poll.
-/

namespace ClusterGuard

/-! ## Waits of a backoff -/

theorem Strategy.delay_le_cap (s : Strategy) (retry : Nat) : s.delay retry ≤ s.cap := by
  obtain ⟨d, hd, hcap⟩ := s.delay?_le_cap retry
  rw [delay, hd]
  exact hcap

/-- **Waits with jitter** are not longer than the cap, if that is below ninety-seven days. -/
theorem Backoff.delay_le_cap {b : Backoff} {factor : Binary .double}
    (h0 : (Binary.zero false).le factor = true) (h1 : factor.le (Binary.ofNat _ 1) = true)
    (hcap : b.strategy.cap.seconds < 2 ^ 23) (retry : Nat) :
    b.delay factor retry ≤ b.strategy.cap := by
  obtain ⟨d, -, hd, hiff⟩ := b.delay_le_iff h0 h1 retry
  have hseconds : d.seconds ≤ b.strategy.cap.seconds := Nat.div_le_div_right hd
  have hreturns := Duration.returns_of_seconds_lt (Nat.lt_of_le_of_lt hseconds hcap)
  obtain ⟨e, he, hle⟩ := hiff.mpr (.inr (.inr hreturns))
  rw [delay, he]
  exact Nat.le_trans hle hd

/-! ## Brief retries -/

namespace Retry

variable {σ ε α : Type} {r : Retry ε}

/-- Whether no wait of a retry is longer than timers can wait. -/
def Brief (r : Retry ε) : Prop := ∀ e n d, r.verdict e n = .wait d → d ≤ longestWait

/-- A wait is that of the backoff, or the policy asked for it. -/
theorem brief_of_delays (hpolicy : ∀ e n d, r.policy e n = .retryAfter d → d ≤ longestWait)
    (hdelay : ∀ n, r.config.backoff.delay (r.draw n) n ≤ longestWait) : r.Brief := by
  intro e n d hd
  unfold verdict at hd
  cases hp : r.policy e (n - 1) with
  | stop =>
    rw [hp] at hd
    cases hd
  | retry =>
    simp only [hp] at hd
    split at hd
    · cases hd
    · cases hd
      exact hdelay (n - 1)
  | retryAfter wait =>
    simp only [hp] at hd
    split at hd
    · cases hd
    · cases hd
      exact hpolicy e (n - 1) d hp

theorem brief_of_no_jitter (hpolicy : ∀ e n d, r.policy e n = .retryAfter d → d ≤ longestWait)
    (hjitter : r.config.backoff.jitter = .none)
    (hcap : r.config.backoff.strategy.cap ≤ longestWait) : r.Brief := by
  refine brief_of_delays hpolicy fun n => ?_
  rw [Backoff.delay_of_no_jitter hjitter]
  exact Nat.le_trans (Strategy.delay_le_cap _ n) hcap

theorem brief_of_jitter (hpolicy : ∀ e n d, r.policy e n = .retryAfter d → d ≤ longestWait)
    (h0 : ∀ n, (Binary.zero false).le (r.draw n) = true)
    (h1 : ∀ n, (r.draw n).le (Binary.ofNat _ 1) = true)
    (hcap : r.config.backoff.strategy.cap.seconds < 2 ^ 23) : r.Brief := by
  have hshort : r.config.backoff.strategy.cap ≤ longestWait := by
    have hlongest : longestWait.nanos = 30 * 365 * 86400 * nanosPerSecond := rfl
    rw [Duration.le_iff, hlongest]
    simp only [Duration.seconds, nanosPerSecond] at hcap ⊢
    omega
  refine brief_of_delays hpolicy fun n => ?_
  exact Nat.le_trans (Backoff.delay_le_cap (h0 n) (h1 n) hcap n) hshort

/-! ### Polls leave the waits as they are -/

theorem Task.verdict_poll (r : Retry ε) (now : Instant) (t : Task σ ε α) (s : σ) :
    (t.poll r now s).2.1.verdict = r.verdict := by
  unfold poll
  split <;> rfl

end Retry

theorem Guard.Call.verdict_poll {σ α : Type} (call : Guard.Call σ α) (g : Guard) (now : Instant)
    (s : σ) : (call.poll g now s).2.1.retry.verdict = g.retry.verdict := by
  have hproceed (permit : Breaker.Permit) (task : Retry.Task σ Fault α) (g : Guard) :
      (proceed permit task g now s).2.1.retry.verdict = g.retry.verdict := by
    have hpoll := task.verdict_poll g.retry now s
    unfold proceed
    split
    · rename_i h
      rwa [h] at hpoll
    · rename_i h
      rwa [h] at hpoll
  cases call with
  | admitted permit task => exact hproceed permit task g
  | unstarted work =>
    simp only [poll]
    split
    · rfl
    · exact hproceed ..

theorem Retrying.verdict_follow {w τ ε α : Type} (source : Source w τ ε α) (now : Instant)
    (subscribe : Nat → τ) (left attempts : Nat) (inner : τ) (r : Retry ε) (s : w) :
    (follow source now subscribe left attempts inner r s).2.2.1.verdict = r.verdict := by
  fun_induction follow source now subscribe left attempts inner r s with
  | _ => first | rfl | assumption

theorem Retrying.verdict_poll {w τ ε α : Type} (source : Source w τ ε α) (now : Instant)
    (t : Retrying τ) (r : Retry ε) (s : w) :
    (t.poll source now r s).2.2.1.verdict = r.verdict := by
  unfold poll
  split
  · exact verdict_follow ..
  · exact verdict_follow ..
  · split
    · rfl
    · exact verdict_follow ..
  · rfl

namespace Watch

variable {σ τ ε α : Type}

/-- Whether no call waits longer than timers can wait. -/
structure Shared.Brief (x : Shared σ ε) : Prop where
  guard : x.guard.retry.Brief
  retry : x.retry.Brief

theorem Shared.Brief.congr {x x' : Shared σ ε} (h : x.Brief)
    (hguard : x'.guard.retry.verdict = x.guard.retry.verdict)
    (hretry : x'.retry.verdict = x.retry.verdict) : x'.Brief where
  guard e n d hd := h.guard e n d (hguard ▸ hd)
  retry e n d hd := h.retry e n d (hretry ▸ hd)

theorem Shared.Brief.judge {x : Shared σ ε} (h : x.Brief) {e : ε ⊕ Fault} {n : Nat} {d : Duration}
    (hd : x.judge e n = .wait d) : d ≤ longestWait := by
  cases e with
  | inl e => exact h.retry e n d hd
  | inr fault => exact h.guard fault n d hd

/-- **A poll** leaves the waits of all calls as they are. -/
theorem Machine.brief_poll {x : Shared σ ε} (h : x.Brief) (inner : Source σ τ ε α) (now : Instant)
    (m : Machine σ τ ε α) : (m.poll inner x now).shared.Brief := by
  have hshared {ρ β : Type} (status : ρ → Status) (last : β → Status) (call : ρ → Machine σ τ ε α)
      (shared : Shared σ ε) (failed : List (Incident (ε ⊕ Fault))) (progress : Progress ρ β) :
      (Polled.ofProgress status last call shared failed progress).shared = shared := by
    cases progress <;> rfl
  cases m with
  | task t =>
    simp only [poll, hshared]
    exact h.congr rfl (t.verdict_poll ..)
  | guarded call =>
    simp only [poll, hshared]
    exact h.congr (call.verdict_poll ..) rfl
  | stream t => exact h.congr rfl (t.verdict_poll ..)

theorem Machine.brief_drop {x : Shared σ ε} (h : x.Brief) (inner : Source σ τ ε α)
    (m : Machine σ τ ε α) : (m.drop inner x).Brief := by
  cases m with
  | task t => exact h
  | guarded call => cases call <;> exact ⟨h.guard, h.retry⟩
  | stream t => exact ⟨h.guard, h.retry⟩

/-! ## Brief sessions -/

/-- Whether every wait that was noted is short. -/
def Notes.Brief (n : Notes) : Prop :=
  ∀ x ∈ n.setbacks, ∀ d, x.verdict = .wait d → d ≤ longestWait

/-- Whether an event does not bring in retries with long waits. -/
def Event.Brief : Event σ τ ε α → Prop
  | meanwhile change => ∀ x : Shared σ ε, x.Brief → (change x).Brief
  | _ => True

namespace Session

/-- Whether no wait of a session is long, neither of those that were nor of those to come. -/
structure Brief (s : Session σ τ ε α) : Prop where
  shared : s.shared.Brief
  notes : ∀ w ∈ s.calls, w.notes.Brief

variable {s : Session σ τ ε α}

theorem brief_begin (h : s.Brief) (m : Machine σ τ ε α) : (s.begin m).Brief := by
  refine ⟨h.shared, fun w hw => ?_⟩
  rcases List.mem_append.mp hw with hw | hw
  · exact h.notes w hw
  · obtain rfl := List.mem_singleton.mp hw
    exact nofun

/-- **A session stays brief** as long as nobody exchanges its retries for others. -/
theorem brief_step (h : s.Brief) (inner : Source σ τ ε α) {event : Event σ τ ε α}
    (hevent : event.Brief) : (s.step inner event).Brief := by
  cases event with
  | execute work => exact brief_begin h _
  | guard work => exact brief_begin h _
  | subscribe f => exact brief_begin h _
  | poll place =>
    simp only [step]
    split
    · rename_i m notes hplace
      refine ⟨m.brief_poll h.shared inner s.now, fun w hw => ?_⟩
      rcases List.mem_or_eq_of_mem_set hw with hw | rfl
      · exact h.notes w hw
      · intro x hx d hd
        rcases List.mem_append.mp hx with hx | hx
        · exact h.notes ⟨.held m, notes⟩ (List.mem_of_getElem? hplace) x hx d hd
        · -- a wait that was noted in this poll
          obtain ⟨incident, -, rfl⟩ := List.mem_map.mp hx
          exact h.shared.judge hd
    · exact h
  | drop place =>
    simp only [step]
    split
    · rename_i m notes hplace
      refine ⟨m.brief_drop h.shared inner, fun w hw => ?_⟩
      rcases List.mem_or_eq_of_mem_set hw with hw | rfl
      · exact h.notes w hw
      · exact h.notes ⟨.held m, notes⟩ (List.mem_of_getElem? hplace)
    · exact h
  | advance d => exact ⟨h.shared, h.notes⟩
  | meanwhile change => exact ⟨hevent s.shared h.shared, h.notes⟩

theorem brief_run (h : s.Brief) (inner : Source σ τ ε α) {events : List (Event σ τ ε α)}
    (hevents : ∀ event ∈ events, event.Brief) : (s.run inner events).Brief := by
  induction events generalizing s with
  | nil => exact h
  | cons event events ih =>
    obtain ⟨hevent, hrest⟩ := List.forall_mem_cons.mp hevents
    exact ih (brief_step h inner hevent) hrest

/-- **Calls of brief retries** end no earlier than the sum of their waits after their first poll,
unless time ends before. -/
theorem elapsed_of_brief {x : Shared σ ε} (hx : x.Brief) (inner : Source σ τ ε α) (now : Instant)
    {events : List (Event σ τ ε α)} (hevents : ∀ event ∈ events, event.Brief) {place : Nat}
    {w : Watched σ τ ε α} {e : Moment}
    (hw : ((start x now).run inner events).calls[place]? = some w)
    (hended : w.notes.ended = some e) :
    ∃ first, w.notes.first = some first ∧
      min maxNanos (first.time.nanos + delay w.notes.setbacks) ≤ e.time.nanos := by
  have hstart : (start x now : Session σ τ ε α).Brief := ⟨hx, nofun⟩
  have hbrief := brief_run hstart inner hevents
  exact elapsed_of_short inner x now events hw hended (hbrief.notes w (List.mem_of_getElem? hw))

end Session

end Watch

end ClusterGuard
