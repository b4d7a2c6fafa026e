import ClusterGuard.Proofs.Guard.Reading
import ClusterGuard.Proofs.Retry.Task

/-!
# Three shapes of one call

The same work can be run to its end, held and polled, or given as the single items of subscriptions
that are collected. In all three shapes the guard decides alike: attempt by attempt, whatever the
kind of the error, and in the end about the breaker and the counters of the retry.

Results:
* `leads_poll`: every poll of a held call leads on to its answer.
* `courseOf_single`: the course of a stream of single items is what lies ahead of the work.
* **`shapes_agree`**: the three shapes come to the same.
-/

namespace ClusterGuard

variable {σ ε α : Type}

/-! ## Single items -/

/-- A subscription with a single item, perhaps not ready for a while before and after it. -/
def Script.single (before : Nat) (act : Act σ ε α) (after : Nat) : Script σ ε α :=
  .replicate before .pause ++ .emit act :: .replicate after .pause

theorem Script.mapError_single {ε' : Type} (f : ε → ε') (before : Nat) (act : Act σ ε α)
    (after : Nat) :
    (single before act after).mapError f
      = single before (fun s => ((act s).1.mapError f, (act s).2)) after := by
  simp [mapError, single]

theorem Script.play_pauses (n : Nat) (rest : Script σ ε α) (s : σ) :
    play (.replicate n .pause ++ rest) s = play rest s := by
  induction n with
  | zero => rfl
  | succ n ih => exact ih

theorem Script.play_single_ok {act : Act σ ε α} {s s' : σ} {a : α} (h : act s = (.ok a, s'))
    (before after : Nat) : (single before act after).play s = ([a], none, s') := by
  have hafter : play (.replicate after .pause : Script σ ε α) s' = ([], none, s') :=
    (congrArg (play · s') (List.append_nil _).symm).trans (play_pauses after [] s')
  rw [single, play_pauses]
  simp only [play, h, hafter]

theorem Script.play_single_error {act : Act σ ε α} {s s' : σ} {e : ε} (h : act s = (.error e, s'))
    (before after : Nat) : (single before act after).play s = ([], some e, s') := by
  rw [single, play_pauses]
  simp only [play, h]

namespace Retry

open ClusterGuard.Retry.Task (ahead ahead_of_result ahead_of_wait)

/-- **A stream of single items** takes the course of the work that lies ahead. -/
theorem courseOf_single (r : Retry ε) (work : Work σ ε α) (before after : Nat → Nat) (made : Nat)
    (waited : Duration) (s : σ) :
    let subscribe n := Script.single (before n) (work n).run (after n)
    Retrying.courseOf Script.play r subscribe (r.left made) (made + 1) ((subscribe made).play s)
      = ⟨[(ahead r work made waited s).1.result], succeeded (ahead r work made waited s).1.result,
          (ahead r work made waited s).1.attempts, (ahead r work made waited s).2⟩ := by
  intro subscribe
  induction hleft : r.left made using Nat.strongRecOn generalizing made waited s with
  | ind left ih =>
    subst hleft
    rcases h : (work made).run s with ⟨result, s'⟩
    cases result with
    | ok a =>
      rw [ahead_of_result h nofun, Script.play_single_ok h, Retrying.courseOf_of_ended]
      rfl
    | error e =>
      rw [Script.play_single_error h]
      cases hv : r.verdict e (made + 1) with
      | giveUp =>
        have hlast (e' : ε) (d : Duration) (he : (.error e : Except ε α) = .error e') :
            r.verdict e' (made + 1) ≠ .wait d := by
          obtain rfl := Except.error.inj he
          simp [hv]
        rw [ahead_of_result h hlast, Retrying.courseOf_of_giveUp hv]
        rfl
      | wait d =>
        have hlt : r.left (made + 1) < r.left made := by
          rw [left_of_lt (lt_of_wait hv)]
          exact Nat.lt_succ_self _
        rw [ahead_of_wait h hv]
        exact (Retrying.courseOf_of_wait hv (Nat.succ_pos made)).trans
          (ih _ hlt (made + 1) (waited + d) s' rfl)

/-- Work that keeps a journal has an entry for every attempt. -/
theorem journal_ahead (r : Retry ε) {work : Work (Scene σ) ε α} {caller : Nat}
    (hw : ∀ n, (work n).run.Notes ⟨caller, n⟩) (made : Nat) (waited : Duration) (s : Scene σ) :
    ∃ k, (ahead r work made waited s).1.attempts = made + k ∧
      (ahead r work made waited s).2.journal = s.journal ++ invocations caller made k :=
  journal_pursue r hw (fun _ _ => rfl) (r.left made) made waited s

end Retry

namespace Guard

open Breaker (Permit Outcome)

variable {g : Guard} {p : Permit} {b : Breaker} {now : Instant} {s : σ}

/-! ## Held calls -/

/-- What a call that was let through comes to, when its work comes to this. -/
def conclude (p : Permit) (b : Breaker) (r : Retry Fault) (e : Retry.Ending Fault α × σ) :
    Answer α × Guard × σ :=
  (⟨e.1.result, e.1.attempts⟩,
    ⟨b.finish p (.of e.1.result), r.count (Retry.succeeded e.1.result) e.1.attempts⟩, e.2)

theorem run_eq_conclude (hr : g.breaker.request = (.ok p, b)) (work : Nat → Act σ Cause α)
    (pause : Duration → σ → σ) (s : σ) :
    g.run work pause s = conclude p b g.retry
      (g.retry.pursue (reported work) pause (g.retry.left 0) 0 .zero s) := by
  unfold Guard.run
  rw [hr]
  rfl

namespace Call

/-- When the wait of a call is over, if it is waiting. -/
def wakesAt? : Call σ α → Option Instant
  | unstarted _ => none
  | admitted _ task => task.wakesAt?

/-- What a call comes to. -/
def answer (g : Guard) (s : σ) : Call σ α → Answer α × Guard × σ
  | unstarted work => g.run (fun n => (work n).run) (fun _ s => s) s
  | admitted p task => conclude p g.breaker g.retry (task.ending g.retry s)

/-- What holds of a call that was polled. -/
def Sane (g : Guard) : Call σ α → Prop
  | unstarted _ => True
  | admitted _ task => task.Sane g.retry

/-- How far a call is from its answer. -/
def rank (g : Guard) : Call σ α → Nat ×ₗ Nat
  | unstarted _ => toLex (g.retry.config.maxAttempts + 2, 0)
  | admitted _ task => task.rank g.retry

/-- Whether something was reached that leads on to this answer. -/
def Leads (now : Instant) (bound : Nat ×ₗ Nat) (target : Answer α × Guard × σ) :
    Progress (Call σ α) (Answer α) × Guard × σ → Prop
  | (.pending call, g, s) => call.Sane g ∧ call.rank g < bound ∧
      (∀ due, call.wakesAt? = some due → ∃ d, due = deadline now d) ∧ call.answer g s = target
  | (.ready a, g, s) => (a, g, s) = target

theorem Leads.trans {bound bound' : Nat ×ₗ Nat} {target : Answer α × Guard × σ}
    {reached : Progress (Call σ α) (Answer α) × Guard × σ} (hlt : bound' < bound)
    (h : Leads now bound' target reached) : Leads now bound target reached := by
  obtain ⟨progress, g, s⟩ := reached
  cases progress with
  | pending call =>
    obtain ⟨hs, hrank, hw, hanswer⟩ := h
    exact ⟨hs, hrank.trans hlt, hw, hanswer⟩
  | ready a => exact h

theorem leads_proceed {task : Retry.Task σ Fault α} (h : task.Sane g.retry)
    (hfired : ∀ due, task.wakesAt? = some due → ¬now < due) (p : Permit) (s : σ) :
    Leads now (task.rank g.retry) (conclude p g.breaker g.retry (task.ending g.retry s))
      (proceed p task g now s) := by
  have hleads := Retry.Task.leads_step h hfired s
  rcases hstep : task.step g.retry now s with ⟨progress, s'⟩
  rw [hstep] at hleads
  simp only [proceed, Retry.Task.poll, hstep]
  cases progress with
  | pending task' =>
    obtain ⟨hs, hrank, hw, hending⟩ := hleads
    exact ⟨hs, hrank, hw, congrArg (conclude p g.breaker g.retry) hending⟩
  | ready ending => exact congrArg (conclude p g.breaker g.retry) hleads

/-- A poll that comes too early changes nothing. -/
theorem poll_of_early {call : Call σ α} {due : Instant} (hw : call.wakesAt? = some due)
    (hlt : now < due) (g : Guard) (s : σ) : call.poll g now s = (.pending call, g, s) := by
  cases call with
  | unstarted work => cases hw
  | admitted p task =>
    simp only [poll, proceed, Retry.Task.poll, Retry.Task.step_of_early hw hlt]

/-- **Every other poll leads on** to the answer of the call. -/
theorem leads_poll {call : Call σ α} (h : call.Sane g)
    (hfired : ∀ due, call.wakesAt? = some due → ¬now < due) (s : σ) :
    Leads now (call.rank g) (call.answer g s) (call.poll g now s) := by
  cases call with
  | admitted p task => exact leads_proceed h hfired p s
  | unstarted work =>
    rcases hr : g.breaker.request with ⟨answer, b⟩
    cases answer with
    | error rejection =>
      simp only [poll, hr]
      exact (run_of_rejected hr _ _ s).symm
    | ok p =>
      have hanswer : answer g s (unstarted work) = conclude p b g.retry
          ((Retry.Task.start fun n => (work n).mapError .ofCause).ending g.retry s) :=
        run_eq_conclude hr (fun n => (work n).run) (fun _ s => s) s
      have hs : (Retry.Task.start fun n => (work n).mapError .ofCause).Sane g.retry := rfl
      have hw (due : Instant)
          (h : (Retry.Task.start fun n => (work n).mapError Fault.ofCause).wakesAt? = some due) :
          ¬now < due := by cases h
      simp only [poll, hr, hanswer]
      refine .trans ?_ (leads_proceed (g := { g with breaker := b }) hs hw p s)
      exact Prod.Lex.toLex_lt_toLex.mpr (.inl (Nat.lt_succ_self _))

/-- A call on its way: what is left of it or its answer, the guard and the surroundings. -/
abbrev Held (σ α : Type) := Progress (Call σ α) (Answer α) × Guard × σ

namespace Held

/-- Polls a call unless it has given its answer. -/
def poll : Held σ α → Instant → Held σ α
  | (.pending call, g, s), now => call.poll g now s
  | (.ready a, g, s), _ => (.ready a, g, s)

/-- Polls a call at some instants, one after the other. -/
def run (h : Held σ α) (polls : List Instant) : Held σ α := polls.foldl poll h

/-- When the wait of a call is over, if it is waiting. -/
def wakesAt? : Held σ α → Option Instant
  | (.pending call, _, _) => call.wakesAt?
  | (.ready _, _, _) => none

/-- Whether a call has given its answer. -/
def IsReady : Held σ α → Prop
  | (.pending _, _, _) => False
  | (.ready _, _, _) => True

/-- What a call comes to. -/
def answer : Held σ α → Answer α × Guard × σ
  | (.pending call, g, s) => call.answer g s
  | (.ready a, g, s) => (a, g, s)

/-- What holds of a call that was polled. -/
def Sane : Held σ α → Prop
  | (.pending call, g, _) => call.Sane g
  | (.ready _, _, _) => True

/-- How far a call is from its answer. -/
def rank : Held σ α → Nat ×ₗ Nat
  | (.pending call, g, _) => call.rank g
  | (.ready _, _, _) => toLex (0, 0)

variable {h : Held σ α}

/-- **A poll keeps the answer**, whether it comes too early or not. -/
theorem answer_poll (hs : h.Sane) (now : Instant) :
    (h.poll now).Sane ∧ (h.poll now).answer = h.answer := by
  obtain ⟨progress, g, s⟩ := h
  cases progress with
  | ready a => exact ⟨trivial, rfl⟩
  | pending call =>
    by_cases hearly : ∃ due, call.wakesAt? = some due ∧ now < due
    · obtain ⟨due, hw, hlt⟩ := hearly
      have hpoll : Held.poll (.pending call, g, s) now = (.pending call, g, s) :=
        Call.poll_of_early hw hlt g s
      rw [hpoll]
      exact ⟨hs, rfl⟩
    · have hfired (due : Instant) (hw : call.wakesAt? = some due) : ¬now < due :=
        fun hlt => hearly ⟨due, hw, hlt⟩
      have hleads := leads_poll hs hfired s
      simp only [poll]
      generalize call.poll g now s = reached at hleads ⊢
      obtain ⟨progress', g', s'⟩ := reached
      cases progress' with
      | pending call' => exact ⟨hleads.1, hleads.2.2.2⟩
      | ready a => exact ⟨trivial, hleads⟩

/-- **Every poll of a held call gets on.** -/
theorem advances : Advances (S := Held σ α) poll wakesAt? IsReady Sane rank where
  early := by
    rintro ⟨progress, g, s⟩ due now hw hlt
    cases progress with
    | ready a => cases hw
    | pending call => exact Call.poll_of_early hw hlt g s
  onward := by
    rintro ⟨progress, g, s⟩ now hs hlive hfired
    cases progress with
    | ready a => exact absurd trivial hlive
    | pending call =>
      have hleads := leads_poll hs hfired s
      simp only [poll]
      generalize call.poll g now s = reached at hleads ⊢
      obtain ⟨progress', g', s'⟩ := reached
      cases progress' with
      | pending call' => exact .inr ⟨hleads.1, hleads.2.1, hleads.2.2.1⟩
      | ready a => exact .inl trivial

/-- Whatever the schedule, the only answer is what the call comes to. -/
theorem answer_run (hs : h.Sane) (polls : List Instant) : (h.run polls).answer = h.answer := by
  induction polls generalizing h with
  | nil => rfl
  | cons now polls ih =>
    obtain ⟨hs', hanswer⟩ := answer_poll hs now
    exact (ih hs').trans hanswer

end Held

end Call

/-! ## Agreement -/

/-- A guarded stream of single items, before it is polled. -/
theorem stream_single (work : Work σ Cause α) (before after : Nat → Nat) :
    Guard.stream (fun n => .single (before n) (work n).run (after n))
      = ⟨.pending, .start fun n => .single (before n) ((work n).mapError .ofCause).run (after n)⟩ := by
  simp only [Guard.stream, Gated.start, Script.mapError_single]
  rfl

/-- What a guarded stream of single items comes to, once it is over. -/
theorem reading_single (g : Guard) (work : Work σ Cause α) (before after : Nat → Nat) (s : σ)
    (polls : List Instant) :
    let answer := g.run (fun n => (work n).run) (fun _ s => s) s
    let reading := (Reading.start
      (Guard.stream fun n => .single (before n) (work n).run (after n)) (g, s)).run source polls
    reading.IsOver → reading.results = [answer.1.result] ∧
      reading.stream.inner.attempts = answer.1.attempts ∧ reading.world = answer.2 := by
  intro answer reading hover
  let faulty n : Attempt σ Fault α := (work n).mapError .ofCause
  let t : Retrying (Script σ Fault α) := .start fun n => .single (before n) (faulty n).run (after n)
  have hreading : reading = (Reading.start ⟨.pending, t⟩ (g, s)).run source polls :=
    congrArg (fun t => (Reading.start t (g, s)).run source polls) (stream_single work before after)
  rw [hreading] at hover ⊢
  rcases hr : g.breaker.request with ⟨permission, b⟩
  cases permission with
  | error rejection =>
    have hanswer : answer = (⟨.error (.circuitOpen rejection), 0⟩, { g with breaker := b }, s) :=
      run_of_rejected hr _ _ s
    rw [hanswer]
    exact over_of_rejected hr (Script.source σ Fault α) t s polls hover
  | ok p =>
    have hanswer : answer = conclude p b g.retry (Retry.Task.ahead g.retry faulty 0 .zero s) :=
      run_eq_conclude hr (fun n => (work n).run) (fun _ s => s) s
    have hcourse : t.course Script.play g.retry s = _ :=
      Retry.courseOf_single g.retry faulty before after 0 .zero s
    have hcome := over_of_granted (Script.plays σ Fault α) hr (Nat.zero_le _) rfl hcourse polls hover
    rw [Outcome.ofAll_singleton] at hcome
    rw [hanswer]
    exact hcome

/-- The journal of a call has an entry for every attempt. -/
theorem journal_run (g : Guard) {work : Work (Scene σ) Cause α} {caller : Nat}
    (hw : ∀ n, (work n).run.Notes ⟨caller, n⟩) (s : Scene σ) :
    let answer := g.run (fun n => (work n).run) (fun _ s => s) s
    answer.2.2.journal = s.journal ++ invocations caller 0 answer.1.attempts := by
  intro answer
  rcases hr : g.breaker.request with ⟨permission, b⟩
  cases permission with
  | error rejection =>
    have hanswer : answer = (⟨.error (.circuitOpen rejection), 0⟩, { g with breaker := b }, s) :=
      run_of_rejected hr _ _ s
    rw [hanswer]
    exact (List.append_nil _).symm
  | ok p =>
    let faulty n : Attempt (Scene σ) Fault α := (work n).mapError .ofCause
    have hanswer : answer = conclude p b g.retry (Retry.Task.ahead g.retry faulty 0 .zero s) :=
      run_eq_conclude hr (fun n => (work n).run) (fun _ s => s) s
    have hfaulty (n : Nat) : (faulty n).run.Notes ⟨caller, n⟩ := hw n
    obtain ⟨k, hattempts, hjournal⟩ := Retry.journal_ahead g.retry hfaulty 0 .zero s
    rw [hanswer]
    simp only [conclude, hattempts, hjournal, Nat.zero_add]

/-- **The three shapes of a call agree**, whatever the state of the guard, the results of the
attempts, and the moments at which nothing is ready. They begin the same attempts, give the same
result, and leave the same guard behind: a call that is run, one that is held and polled until it is
ready, and a stream that is read to its end, and both of these are under every patient schedule. -/
theorem shapes_agree (g : Guard) (work : Nat → Act σ Cause α) (waits before after : Nat → Nat)
    (caller : Nat) (around : σ) :
    let act n := (work n).noted ⟨caller, n⟩
    let answer := g.run act (fun _ s => s) ⟨around, []⟩
    let future := Call.Held.run (.pending (.unstarted fun n => ⟨waits n, act n⟩), g, ⟨around, []⟩)
    let stream := (Reading.start
      (Guard.stream fun n => .single (before n) (act n) (after n)) (g, ⟨around, []⟩)).run source
    answer.2.2.journal = invocations caller 0 answer.1.attempts ∧
    (∀ polls, (future polls).IsReady → future polls = (.ready answer.1, answer.2)) ∧
    (∀ polls, (stream polls).IsOver → (stream polls).results = [answer.1.result] ∧
      Stream.attempts (stream polls).stream = answer.1.attempts ∧
      (stream polls).world = answer.2) ∧
    ∀ polls, Patient polls → (∃ k, (future (firstPolls polls k)).IsReady) ∧
      ∃ k, (stream (firstPolls polls k)).IsOver := by
  intro act answer future stream
  let attempts n : Attempt (Scene σ) Cause α := ⟨waits n, act n⟩
  have hnotes (n : Nat) : (attempts n).run.Notes ⟨caller, n⟩ := Act.notes_noted _ _
  let held : Call.Held (Scene σ) α := (.pending (.unstarted attempts), g, ⟨around, []⟩)
  have hsane : held.Sane := trivial
  refine ⟨journal_run g hnotes ⟨around, []⟩, fun polls hready => ?_, fun polls hover => ?_,
    fun polls hp => ⟨?_, ?_⟩⟩
  · have hanswer : (future polls).answer = answer := Call.Held.answer_run hsane polls
    rcases hf : future polls with ⟨progress, g', s'⟩
    rw [hf] at hready hanswer
    cases progress with
    | pending call => exact hready.elim
    | ready a => rw [← hanswer]; rfl
  · exact reading_single g attempts before after ⟨around, []⟩ polls hover
  · exact Call.Held.advances.exists_over hp held hsane rfl
  · have hstream : stream = (Reading.start ⟨.pending, _⟩ (g, ⟨around, []⟩)).run source :=
      congrArg (fun t => (Reading.start t (g, ⟨around, []⟩)).run source)
        (stream_single attempts before after)
    rw [hstream]
    exact exists_reading_isOver (Script.plays (Scene σ) Fault α) hp (Nat.zero_le _) rfl rfl
      ⟨around, []⟩

end Guard

end ClusterGuard
