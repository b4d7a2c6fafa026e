import ClusterGuard.Proofs.Guard.Accounts
import ClusterGuard.Proofs.Stream.Course

/-!
# Reading a guarded stream

A guarded stream is a retried stream behind a gate. Once it is let through, its readings are those
of the retried stream, signal by signal; the breaker hears of the last one. So whatever is known of
retried streams holds behind the gate.

Results:
* **`reading_of_granted`**: a stream that is let through reads like the retried stream behind it.
* `reading_of_rejected`: one that is not reads as its rejection.
* **`over_of_granted`**, `over_of_rejected`: what a guarded stream comes to.
* `exists_reading_isOver`: patient schedules come to the end of a guarded stream.
-/

namespace ClusterGuard

/-- The outcome of a stream that delivered these results. -/
def Breaker.Outcome.ofAll {ε α : Type} (results : List (Except ε α)) : Breaker.Outcome :=
  if results.all Retry.succeeded then .success else .failure

theorem Breaker.Outcome.ofAll_singleton {ε α : Type} (result : Except ε α) :
    ofAll [result] = .of result := by
  cases result <;> rfl

/-- Before an error or the end, every result is a value. -/
theorem Reading.succeeded_of_not_isOver {w τ ε α : Type} {s : Reading w τ ε α} (h : ¬s.IsOver) :
    s.results.all Retry.succeeded = true := by
  rw [List.all_eq_true]
  intro result hresult
  obtain ⟨signal, hmem, hsignal⟩ := List.mem_filterMap.mp hresult
  cases signal with
  | value a =>
    obtain rfl := Option.some.inj hsignal
    rfl
  | failure e => exact absurd ⟨_, hmem, trivial⟩ h
  | pending => cases hsignal
  | ended => cases hsignal

namespace Guard

open Breaker (Permit Outcome)

variable {σ τ α : Type} {play : τ → σ → List α × Option Fault × σ} {size : τ → Nat}
  {source : Source σ τ Fault α} {now : Instant} {g : Guard} {p : Permit} {b : Breaker}
  {t : Retrying τ} {s : σ}

/-- The reading of a guarded stream that was let through: what it reads like behind the gate, and
what the breaker has heard. -/
def behind (p : Permit) (b : Breaker) (s : Reading (Retry Fault × σ) (Retrying τ) Fault α) :
    Reading (Guard × σ) (Gated (Retrying τ)) Fault α :=
  if s.stream.isTerminated then
    ⟨s.signals, ⟨.done, s.stream⟩, ⟨b.finish p (.ofAll s.results), s.world.1⟩, s.world.2⟩
  else ⟨s.signals, ⟨.admitted p, s.stream⟩, ⟨b, s.world.1⟩, s.world.2⟩

@[simp] theorem results_behind (s : Reading (Retry Fault × σ) (Retrying τ) Fault α) :
    (behind p b s).results = s.results := by
  unfold behind
  split <;> rfl

@[simp] theorem isOver_behind (s : Reading (Retry Fault × σ) (Retrying τ) Fault α) :
    (behind p b s).IsOver ↔ s.IsOver := by
  unfold behind
  split <;> exact Iff.rfl

theorem behind_of_live {s : Reading (Retry Fault × σ) (Retrying τ) Fault α}
    (h : s.stream.isTerminated = false) :
    behind p b s = ⟨s.signals, ⟨.admitted p, s.stream⟩, ⟨b, s.world.1⟩, s.world.2⟩ :=
  if_neg (by simp [h])

theorem behind_of_terminated {s : Reading (Retry Fault × σ) (Retrying τ) Fault α}
    (h : s.stream.isTerminated = true) :
    behind p b s = ⟨s.signals, ⟨.done, s.stream⟩, ⟨b.finish p (.ofAll s.results), s.world.1⟩,
      s.world.2⟩ := if_pos h

/-- What a poll comes to in front of the gate that comes to this behind it. -/
def passed (p : Permit) (b : Breaker) :
    Retrying.Reply σ τ Fault α → Signal Fault α × Gated (Retrying τ) × Guard × σ
  | (.pending, t, r, s) => (.pending, ⟨.admitted p, t⟩, ⟨b, r⟩, s)
  | (.value a, t, r, s) => (.value a, ⟨.admitted p, t⟩, ⟨b, r⟩, s)
  | (.failure e, t, r, s) => (.failure e, ⟨.done, t⟩, ⟨b.finish p .failure, r⟩, s)
  | (.ended, t, r, s) => (.ended, ⟨.done, t⟩, ⟨b.finish p .success, r⟩, s)

theorem sourceOf_poll_of_admitted (source : Source σ τ Fault α) (now : Instant) (p : Permit)
    (t : Retrying τ) (b : Breaker) (r : Retry Fault) (s : σ) :
    (sourceOf source now).poll ⟨.admitted p, t⟩ (⟨b, r⟩, s) = passed p b (t.poll source now r s) := by
  simp only [sourceOf, Source.focus, Gated.source, Gated.poll, Gated.pass, Retrying.source]
  rcases t.poll source now r s with ⟨signal, t', r', s'⟩
  cases signal <;> rfl

/-- The first error or the end closes the gate, and the breaker hears of it. -/
theorem take_passed {c : Retrying.Course σ Fault α} {r : Retry Fault}
    {reading : Reading (Retry Fault × σ) (Retrying τ) Fault α}
    {reply : Retrying.Reply σ τ Fault α} (h : Retrying.Delivers play r c reply)
    (hover : ¬reading.IsOver) {before : Reading (Guard × σ) (Gated (Retrying τ)) Fault α}
    (hsignals : before.signals = reading.signals) :
    before.take (passed p b reply) = behind p b (reading.take reply) := by
  have hall := Reading.succeeded_of_not_isOver hover
  cases h with
  | @part signal t' s' hs hl ht hc =>
    rw [behind_of_live ht]
    cases signal with
    | pending => simp [passed, Reading.take, hsignals]
    | value a => simp [passed, Reading.take, hsignals]
    | failure e => exact absurd trivial hl
    | ended => exact absurd trivial hl
  | @rest signal t' s' succeeded hl ht hc =>
    rw [behind_of_terminated ht, Reading.results_take]
    cases signal with
    | pending => exact hl.elim
    | value a => exact hl.elim
    | failure e =>
      have hout : Outcome.ofAll (reading.results ++ [.error e]) = .failure := by
        simp [Outcome.ofAll, Retry.succeeded]
      simp [passed, Reading.take, hsignals, Signal.result?, hout]
    | ended =>
      have hout : Outcome.ofAll reading.results = .success := if_pos hall
      simp [passed, Reading.take, hsignals, Signal.result?, hout]

/-- **The gate adds nothing to a poll** of a stream that was let through. -/
theorem poll_behind (hplays : source.Plays play size) {c : Retrying.Course σ Fault α}
    {r : Retry Fault} {reading : Reading (Retry Fault × σ) (Retrying τ) Fault α}
    (h : Retrying.Follows play r c reading) (now : Instant) :
    (behind p b reading).poll (sourceOf source) now
      = behind p b (reading.poll (Retrying.source source) now) := by
  cases h with
  | part hr hs ht hover hc =>
    subst hr
    have hdelivers := Retrying.delivers_poll hplays now hs ht reading.world.2
    rw [behind_of_live ht, Reading.poll, sourceOf_poll_of_admitted]
    exact take_passed hdelivers hover rfl
  | finished hr ht hover hc =>
    have hpoll := Retrying.poll_of_terminated source now ht reading.world.1 reading.world.2
    have hinner : reading.poll (Retrying.source source) now
        = reading.take (.ended, reading.stream, reading.world) := by
      simp only [Reading.poll, Retrying.source, hpoll]
    have hdone : (reading.take (.ended, reading.stream, reading.world)).stream.isTerminated = true :=
      ht
    have hresults : (reading.take (.ended, reading.stream, reading.world)).results
        = reading.results := by
      rw [Reading.results_take]
      exact List.append_nil _
    rw [behind_of_terminated ht, Reading.poll, sourceOf_poll_of_done, hinner,
      behind_of_terminated hdone, hresults]
    rfl

/-- **A stream that is let through** reads like the retried stream behind it. -/
theorem reading_of_granted (hplays : source.Plays play size) (hr : g.breaker.request = (.ok p, b))
    (hs : t.Sane g.retry) (ht : t.isTerminated = false) (s : σ) (now : Instant)
    (polls : List Instant) :
    (Reading.start ⟨.pending, t⟩ (g, s)).run (sourceOf source) (now :: polls)
      = behind p b ((Reading.start t (g.retry, s)).run (Retrying.source source) (now :: polls)) := by
  have hdelivers := Retrying.delivers_poll hplays now hs ht s
  have hover : ¬(Reading.start t (g.retry, s) : Reading _ _ Fault α).IsOver := by
    simp [Reading.IsOver, Reading.start]
  have hfirst : (Reading.start ⟨.pending, t⟩ (g, s)).poll (sourceOf source) now
      = behind p b ((Reading.start t (g.retry, s)).poll (Retrying.source source) now) := by
    simp only [Reading.poll, Reading.start]
    rw [sourceOf_poll_of_granted hr, sourceOf_poll_of_admitted]
    exact take_passed hdelivers hover rfl
  have hrest (polls : List Instant) {reading : Reading (Retry Fault × σ) (Retrying τ) Fault α}
      (h : Retrying.Follows play g.retry (t.course play g.retry s) reading) :
      (behind p b reading).run (sourceOf source) polls
        = behind p b (reading.run (Retrying.source source) polls) := by
    induction polls generalizing reading with
    | nil => rfl
    | cons now polls ih =>
      have hnext := ih (Retrying.follows_poll hplays h now)
      rw [← poll_behind hplays h now] at hnext
      exact hnext
  have hrun := hrest polls (Retrying.follows_run hplays hs ht s [now])
  exact (congrArg (Reading.run (sourceOf source) · polls) hfirst).trans hrun

/-- A stream that is done goes on ending. -/
theorem reading_of_done (source : Source σ τ Fault α) (signals : List (Signal Fault α))
    (t : Retrying τ) (g : Guard) (s : σ) (polls : List Instant) :
    (⟨signals, ⟨.done, t⟩, g, s⟩ : Reading (Guard × σ) (Gated (Retrying τ)) Fault α).run
        (sourceOf source) polls
      = ⟨signals ++ .replicate polls.length .ended, ⟨.done, t⟩, g, s⟩ := by
  induction polls generalizing signals with
  | nil => simp [Reading.run]
  | cons now polls ih =>
    have hpoll : (⟨signals, ⟨.done, t⟩, g, s⟩ : Reading _ _ _ _).poll (sourceOf source) now
        = ⟨signals ++ [.ended], ⟨.done, t⟩, g, s⟩ := by
      simp only [Reading.poll, sourceOf_poll_of_done, Reading.take]
    refine (congrArg (Reading.run (sourceOf source) · polls) hpoll).trans ((ih _).trans ?_)
    simp [List.replicate_succ]

/-- A stream that is not let through delivers its rejection, and ends. -/
theorem reading_of_rejected {rejection : Rejection} (hr : g.breaker.request = (.error rejection, b))
    (source : Source σ τ Fault α) (t : Retrying τ) (s : σ) (now : Instant) (polls : List Instant) :
    (Reading.start ⟨.pending, t⟩ (g, s)).run (sourceOf source) (now :: polls)
      = ⟨.failure (.circuitOpen rejection) :: .replicate polls.length .ended, ⟨.done, t⟩,
          { g with breaker := b }, s⟩ := by
  have hpoll : (Reading.start ⟨.pending, t⟩ (g, s)).poll (sourceOf source) now
      = ⟨[.failure (.circuitOpen rejection)], ⟨.done, t⟩, { g with breaker := b }, s⟩ := by
    simp only [Reading.poll, Reading.start, sourceOf_poll_of_rejected hr, Reading.take]
    rfl
  refine (congrArg (Reading.run (sourceOf source) · polls) hpoll).trans ?_
  exact reading_of_done source _ t _ s polls

/-- **What a guarded stream comes to** that is let through: the course of the retried stream. -/
theorem over_of_granted (hplays : source.Plays play size) (hr : g.breaker.request = (.ok p, b))
    (hs : t.Sane g.retry) (ht : t.isTerminated = false) {s : σ} {c : Retrying.Course σ Fault α}
    (hc : t.course play g.retry s = c) (polls : List Instant) :
    let reading := (Reading.start ⟨.pending, t⟩ (g, s)).run (sourceOf source) polls
    reading.IsOver → reading.results = c.results ∧ reading.stream.inner.attempts = c.attempts ∧
      reading.world = (⟨b.finish p (.ofAll c.results), g.retry.count c.succeeded c.attempts⟩,
        c.world) := by
  intro reading hover
  cases polls with
  | nil => simp [reading, Reading.run, Reading.start, Reading.IsOver] at hover
  | cons now polls =>
    have hreading : reading = behind p b ((Reading.start t (g.retry, s)).run
        (Retrying.source source) (now :: polls)) :=
      reading_of_granted hplays hr hs ht s now polls
    have hfollows := Retrying.follows_run hplays hs ht s (now :: polls)
    rw [hc] at hfollows
    rw [hreading, isOver_behind] at hover
    rw [hreading]
    generalize (Reading.start t (g.retry, s)).run (Retrying.source source) (now :: polls) = retried
      at hfollows hover ⊢
    cases hfollows with
    | part _ _ _ hlive _ => exact absurd hover hlive
    | finished hretry hdone _ hcourse =>
      have hresults : retried.results = c.results := (congrArg (·.results) hcourse).symm
      have hattempts : retried.stream.attempts = c.attempts := (congrArg (·.attempts) hcourse).symm
      have hworld : retried.world.2 = c.world := (congrArg (·.world) hcourse).symm
      rw [results_behind, behind_of_terminated hdone, hretry, hresults, hworld]
      exact ⟨rfl, hattempts, rfl⟩

/-- What a guarded stream comes to that is not let through. -/
theorem over_of_rejected {rejection : Rejection} (hr : g.breaker.request = (.error rejection, b))
    (source : Source σ τ Fault α) (t : Retrying τ) (s : σ) (polls : List Instant) :
    let reading := (Reading.start ⟨.pending, t⟩ (g, s)).run (sourceOf source) polls
    reading.IsOver → reading.results = [.error (.circuitOpen rejection)] ∧
      reading.stream.inner.attempts = t.attempts ∧ reading.world = ({ g with breaker := b }, s) := by
  intro reading hover
  cases polls with
  | nil => simp [reading, Reading.run, Reading.start, Reading.IsOver] at hover
  | cons now polls =>
    have hreading := reading_of_rejected hr source t s now polls
    have hended : (List.replicate polls.length (.ended : Signal Fault α)).filterMap (·.result?) = [] :=
      List.filterMap_eq_nil_iff.mpr fun signal h => by
        rw [List.eq_of_mem_replicate h]
        rfl
    rw [show reading = _ from hreading]
    exact ⟨congrArg (_ :: ·) hended, rfl, rfl⟩

/-- Patient schedules come to the end of a guarded stream. -/
theorem exists_reading_isOver (hplays : source.Plays play size) {polls : Nat → Instant}
    (hp : Patient polls) (hs : t.Sane g.retry) (ht : t.isTerminated = false)
    (hw : t.wakesAt? = none) (s : σ) :
    ∃ k, ((Reading.start ⟨.pending, t⟩ (g, s)).run (sourceOf source) (firstPolls polls k)).IsOver := by
  rcases hr : g.breaker.request with ⟨answer, b⟩
  cases answer with
  | error rejection =>
    refine ⟨1, ?_⟩
    rw [firstPolls_eq_cons, reading_of_rejected hr]
    exact ⟨_, List.mem_cons_self .., trivial⟩
  | ok p =>
    obtain ⟨k, hk⟩ := Retrying.exists_terminated hplays hp hs hw s
    have hfollows := Retrying.follows_run hplays hs ht s (firstPolls polls k)
    cases k with
    | zero => exact absurd hk (by simp [firstPolls, Reading.run, Reading.start, ht])
    | succ k =>
      refine ⟨k + 1, ?_⟩
      rw [firstPolls_eq_cons] at hk hfollows ⊢
      rw [reading_of_granted hplays hr hs ht, isOver_behind]
      exact hfollows.isTerminated_iff.mp hk

end Guard

end ClusterGuard
