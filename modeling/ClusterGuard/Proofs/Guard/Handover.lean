import ClusterGuard.Proofs.Guard.Shapes
import ClusterGuard.Proofs.Guard.Stretch
import ClusterGuard.Proofs.Stream.Subscriptions
import Mathlib.Logic.Relation

/-!
# What becomes of the errors of work

Every failed attempt hands an error over, of any kind and with any other errors behind it. The guard
looks at the error itself and at nothing behind it: if it is a missing reply, another attempt is
worth making, and what is reported in the end is the last error, wrapped unless it is a fault.

The errors are noted as they are handed over, before the guard sees them. `Handled` tells, attempt
by attempt, how they may follow each other and what is reported after the last one.

Results:
* `sources_eq`: what is behind an error is what its description tells.
* `not_isTimeout_of_behind`: nothing with an error behind it is a missing reply.
* `handled_pursue`, `handled_courseOf`: retried work and retried streams handle every error.
* **`errors_are_classified`**: in all three shapes of a guarded call, an error is tried again,
  passed on or wrapped for what it is itself.
-/

namespace ClusterGuard

/-! ## Errors behind an error -/

namespace Cause

/-- The error directly behind a cause. -/
def source? : Cause → Option Cause
  | fault (.failed c) => some c
  | command (.failed f) => some (.fault f)
  | wrapping _ c => some c
  | _ => none

/-- The texts of the errors behind a cause are those of its source, and of what is behind that. -/
theorem sources_eq (c : Cause) :
    c.sources = c.source?.elim [] fun d => d.message :: d.sources := by
  cases c with
  | fault f => cases f <;> rfl
  | command e => cases e <;> rfl
  | config e => rfl
  | rejection r => rfl
  | foreign message => rfl
  | wrapping message source => rfl

/-- Whether an error is somewhere behind a cause. -/
def Behind : Cause → Cause → Prop := Relation.TransGen fun c d => c.source? = some d

/-- Whether a cause is itself the fault that no reply came. -/
def IsTimeout (c : Cause) : Prop := ∃ limit, c = .fault (.timedOut limit)

/-- **Nothing with an error behind it is a missing reply**, whatever that error is. -/
theorem not_isTimeout_of_behind {c d : Cause} (h : c.Behind d) : ¬c.IsTimeout := by
  rintro ⟨limit, rfl⟩
  obtain ⟨e, he, -⟩ := Relation.TransGen.head'_iff.mp h
  cases he

/-- The fault that a cause is reported as is worth another attempt only if it was a missing reply
before. -/
theorem isRetryable_ofCause_iff {c : Cause} :
    (Fault.ofCause c).isRetryable = true ↔ c.IsTimeout := by
  cases c with
  | fault f => cases f <;> simp [Fault.ofCause, Fault.isRetryable, IsTimeout]
  | command e => simp [Fault.ofCause, Fault.isRetryable, IsTimeout]
  | config e => simp [Fault.ofCause, Fault.isRetryable, IsTimeout]
  | rejection r => simp [Fault.ofCause, Fault.isRetryable, IsTimeout]
  | foreign message => simp [Fault.ofCause, Fault.isRetryable, IsTimeout]
  | wrapping message source => simp [Fault.ofCause, Fault.isRetryable, IsTimeout]

end Cause

variable {σ α : Type}

/-! ## Errors that are handed over -/

/-- The error of a result. -/
def failure? {ε : Type} : Except ε α → Option ε
  | .ok _ => none
  | .error e => some e

/-- Whether the errors noted have grown by that of attempt number `k`, if it ended with one, and
whether that is what it was reported as. -/
def HandsOver (k : Nat) (s s' : Observed σ Cause) : Option Fault → Prop
  | none => s'.incidents = s.incidents
  | some f => ∃ c, f = .ofCause c ∧ s'.incidents = s.incidents ++ [⟨k, c⟩]

/-- An act whose error is noted and then reported. -/
theorem handsOver_act (k : Nat) (act : Act σ Cause α) (s : Observed σ Cause) :
    HandsOver k s (act.observed k id s).2
      (failure? ((act.observed k id s).1.mapError Fault.ofCause)) := by
  simp only [Act.observed]
  cases (act s.around).1 with
  | ok a => exact List.append_nil _
  | error c => exact ⟨c, rfl, rfl⟩

/-- A script whose errors are noted. -/
def Script.observed (k : Nat) (script : Script σ Cause α) : Script (Observed σ Cause) Cause α :=
  script.map fun
    | .pause => .pause
    | .emit run => .emit (Act.observed k id run)

/-- A script that is played to its first error. -/
theorem handsOver_play (k : Nat) (script : Script σ Cause α) (s : Observed σ Cause) :
    let played := ((script.observed k).mapError Fault.ofCause).play s
    HandsOver k s played.2.2 played.2.1 := by
  induction script generalizing s with
  | nil => rfl
  | cons item rest ih =>
    cases item with
    | pause => exact ih s
    | emit act =>
      have hact := handsOver_act k act s
      simp only [Script.observed, Script.mapError, List.map_cons, Script.play]
      rcases h : act.observed k id s with ⟨result, s'⟩
      rw [h] at hact
      cases result with
      | error c => exact hact
      | ok a =>
        have hs : s'.incidents = s.incidents := hact
        have hrest := ih s'
        simp only [Except.mapError, Script.observed, Script.mapError] at hrest ⊢
        generalize Script.play _ s' = played at hrest ⊢
        obtain ⟨values, error, s''⟩ := played
        cases error with
        | none => exact Eq.trans hrest hs
        | some f =>
          obtain ⟨c, hf, hlog⟩ := hrest
          exact ⟨c, hf, hlog.trans (congrArg (· ++ _) hs)⟩

/-- The errors that attempts hand over, one after the other, from number `made` on, with the number
of attempts at the end and the fault that is reported then, if any. -/
inductive Handled (max : Nat) : Nat → List (Incident Cause) → Nat → Option Fault → Prop
  | succeeded (made : Nat) : Handled max made [] (made + 1) none
  | last (made : Nat) (c : Cause) (h : ¬(made + 1 < max ∧ c.IsTimeout)) :
      Handled max made [⟨made, c⟩] (made + 1) (some (.ofCause c))
  | again {made : Nat} {c : Cause} (h : made + 1 < max ∧ c.IsTimeout)
      {handed : List (Incident Cause)} {attempts : Nat} {error : Option Fault}
      (rest : Handled max (made + 1) handed attempts error) :
      Handled max made (⟨made, c⟩ :: handed) attempts error

namespace Handled

variable {max made attempts : Nat} {handed : List (Incident Cause)} {error : Option Fault}

theorem lt (h : Handled max made handed attempts error) : made < attempts := by
  induction h with
  | succeeded => exact Nat.lt_succ_self _
  | last => exact Nat.lt_succ_self _
  | again _ _ ih => exact Nat.lt_of_succ_lt ih

/-- **Every attempt but one that succeeds** hands an error over. -/
theorem numbers (h : Handled max made handed attempts error) :
    handed.map (·.attempt) = List.range' made (attempts - made - if error.isSome then 0 else 1) := by
  induction h with
  | succeeded made => simp
  | last made c h => simp
  | @again made c h handed attempts error rest ih =>
    have hlt := rest.lt
    simp only [List.map_cons, ih]
    rw [← List.range'_succ]
    congr 1
    split <;> omega

/-- **An error is tried again** if it is a missing reply itself, and attempts are left. -/
theorem again_iff (h : Handled max made handed attempts error) {i : Incident Cause}
    (hi : i ∈ handed) :
    i.attempt + 1 < attempts ↔ i.attempt + 1 < max ∧ i.error.IsTimeout := by
  induction h with
  | succeeded => cases hi
  | last made c h =>
    obtain rfl := List.mem_singleton.mp hi
    exact iff_of_false (Nat.lt_irrefl _) h
  | again h rest ih =>
    rcases List.mem_cons.mp hi with rfl | hi
    · exact iff_of_true rest.lt h
    · exact ih hi

theorem lt_of_mem (h : Handled max made handed attempts error) {i : Incident Cause}
    (hi : i ∈ handed) : i.attempt < attempts := by
  induction h with
  | succeeded => cases hi
  | last made c h =>
    obtain rfl := List.mem_singleton.mp hi
    exact Nat.lt_succ_self _
  | again h rest ih =>
    rcases List.mem_cons.mp hi with rfl | hi
    · exact Nat.lt_of_succ_lt rest.lt
    · exact ih hi

/-- **The error of the last attempt** is what is reported. -/
theorem reported (h : Handled max made handed attempts error) {i : Incident Cause}
    (hi : i ∈ handed) (hlast : i.attempt + 1 = attempts) : error = some (.ofCause i.error) := by
  induction h with
  | succeeded => cases hi
  | last made c h =>
    obtain rfl := List.mem_singleton.mp hi
    rfl
  | again h rest ih =>
    rcases List.mem_cons.mp hi with rfl | hi
    · exact absurd rest.lt (by simp only at hlast; omega)
    · exact ih hi hlast

/-- A fault that is reported was handed over by the last attempt. -/
theorem exists_last (h : Handled max made handed attempts error) (hsome : error.isSome) :
    ∃ i ∈ handed, i.attempt + 1 = attempts := by
  induction h with
  | succeeded => cases hsome
  | last made c h => exact ⟨_, List.mem_singleton_self _, rfl⟩
  | again h rest ih =>
    obtain ⟨i, hi, hlast⟩ := ih hsome
    exact ⟨i, List.mem_cons_of_mem _ hi, hlast⟩

end Handled

/-! ## Retried work and retried streams -/

namespace Retry

variable {r : Retry Fault}

/-- Under the policy of guards, a wait follows an error that is a missing reply itself. -/
theorem verdict_ofCause_eq_giveUp_iff (hp : r.policy = Guard.policy) (c : Cause) (n : Nat) :
    r.verdict (.ofCause c) n = .giveUp ↔ ¬(n < r.config.maxAttempts ∧ c.IsTimeout) := by
  rw [verdict_eq_giveUp_iff, hp, ← Cause.isRetryable_ofCause_iff]
  unfold Guard.policy Policy.transient Policy.whenever
  cases hc : (Fault.ofCause c).isRetryable <;> simp [hc]

theorem of_verdict_ofCause_eq_wait (hp : r.policy = Guard.policy) {c : Cause} {n : Nat}
    {d : Duration} (hv : r.verdict (.ofCause c) n = .wait d) :
    n < r.config.maxAttempts ∧ c.IsTimeout := by
  by_contra hno
  rw [(verdict_ofCause_eq_giveUp_iff hp c n).mpr hno] at hv
  cases hv

/-- **Retried work** handles every error, by induction on the attempts that are left. -/
theorem handled_pursue (hp : r.policy = Guard.policy)
    {work : Nat → Act (Observed σ Cause) Fault α}
    (hwork : ∀ k s, HandsOver k s (work k s).2 (failure? (work k s).1))
    {pause : Duration → Observed σ Cause → Observed σ Cause}
    (hpause : ∀ d s, (pause d s).incidents = s.incidents) (made : Nat) (waited : Duration)
    (s : Observed σ Cause) :
    let done := r.pursue work pause (r.left made) made waited s
    ∃ handed, done.2.incidents = s.incidents ++ handed ∧
      Handled r.config.maxAttempts made handed done.1.attempts (failure? done.1.result) := by
  induction hleft : r.left made using Nat.strongRecOn generalizing made waited s with
  | ind left ih =>
    subst hleft
    have hover := hwork made s
    rcases h : work made s with ⟨result, s'⟩
    rw [h] at hover
    cases result with
    | ok a =>
      rw [pursue_of_last h nofun]
      exact ⟨[], hover.trans (List.append_nil _).symm, .succeeded made⟩
    | error f =>
      obtain ⟨c, rfl, hs⟩ := hover
      cases hv : r.verdict (.ofCause c) (made + 1) with
      | giveUp =>
        rw [pursue_of_last h fun e he => by cases he; exact hv]
        exact ⟨_, hs, .last made c ((verdict_ofCause_eq_giveUp_iff hp c _).mp hv)⟩
      | wait d =>
        have hlt : r.left (made + 1) < r.left made := by
          rw [left_of_lt (lt_of_wait hv)]
          exact Nat.lt_succ_self _
        rw [pursue_of_wait h hv]
        obtain ⟨handed, hlog, hrest⟩ :=
          ih _ hlt (made + 1) (waited + d) (if d.isZero then s' else pause d s') rfl
        have hpaused : (if d.isZero then s' else pause d s').incidents = s'.incidents := by
          split
          · rfl
          · exact hpause d s'
        refine ⟨_, ?_, .again (of_verdict_ofCause_eq_wait hp hv) hrest⟩
        rw [hlog, hpaused, hs, List.append_assoc]
        rfl

end Retry

namespace Retrying

variable {r : Retry Fault}

/-- **A retried stream** handles every error, by induction on the attempts that are left. -/
theorem handled_courseOf (hp : r.policy = Guard.policy)
    {subscribe : Nat → Script (Observed σ Cause) Fault α}
    (hplay : ∀ k s, HandsOver k s ((subscribe k).play s).2.2 ((subscribe k).play s).2.1)
    (made : Nat) (s : Observed σ Cause) :
    let course := courseOf Script.play r subscribe (r.left made) (made + 1)
      ((subscribe made).play s)
    ∃ (handed : List (Incident Cause)) (values : List α) (error : Option Fault),
      course.world.incidents = s.incidents ++ handed ∧
      course.results = values.map .ok ++ error.toList.map .error ∧
      Handled r.config.maxAttempts made handed course.attempts error := by
  induction hleft : r.left made using Nat.strongRecOn generalizing made s with
  | ind left ih =>
    subst hleft
    have hover := hplay made s
    rcases h : (subscribe made).play s with ⟨values, error, s'⟩
    rw [h] at hover
    cases error with
    | none =>
      rw [courseOf_of_ended]
      exact ⟨[], values, none, hover.trans (List.append_nil _).symm, (List.append_nil _).symm,
        .succeeded made⟩
    | some f =>
      obtain ⟨c, rfl, hs⟩ := hover
      have hs : s'.incidents = s.incidents ++ [⟨made, c⟩] := hs
      cases hv : r.verdict (.ofCause c) (made + 1) with
      | giveUp =>
        rw [courseOf_of_giveUp hv]
        exact ⟨_, values, some _, hs, rfl,
          .last made c ((Retry.verdict_ofCause_eq_giveUp_iff hp c _).mp hv)⟩
      | wait d =>
        have hlt : r.left (made + 1) < r.left made := by
          rw [Retry.left_of_lt (Retry.lt_of_wait hv)]
          exact Nat.lt_succ_self _
        have hcourse : courseOf Script.play r subscribe (r.left made) (made + 1)
            (values, some (.ofCause c), s') = _ := courseOf_of_wait hv (Nat.succ_pos made)
        obtain ⟨handed, values', error, hlog, hresults, hrest⟩ := ih _ hlt (made + 1) s' rfl
        rw [hcourse]
        refine ⟨_, values ++ values', error, ?_, ?_,
          .again (Retry.of_verdict_ofCause_eq_wait hp hv) hrest⟩
        · simp only [Course.after, hlog, hs, List.append_assoc]
          rfl
        · simp only [Course.after, hresults, List.map_append, List.append_assoc]

end Retrying

namespace Guard

/-! ## The three shapes -/

/-- What a guard makes of the errors that the attempts of a call hand over: how many attempts there
are, and what is reported at the end, if anything. Attempts are numbered from zero. -/
structure Classified (g : Guard) (handed : List (Incident Cause)) (attempts : Nat)
    (error : Option Fault) : Prop where
  /-- Work that is not let through makes no attempt. -/
  refused : ∀ rejection b, g.breaker.request = (.error rejection, b) →
    handed = [] ∧ attempts = 0 ∧ error = some (.circuitOpen rejection)
  granted : ∀ p b, g.breaker.request = (.ok p, b) → 0 < attempts
  /-- Every attempt but one that succeeds has handed an error over. -/
  numbers : 0 < attempts → handed.map (·.attempt)
    = List.range (attempts - if error.isSome then 0 else 1)
  /-- An error is tried again if attempts are left and it is a missing reply itself. -/
  again : ∀ i ∈ handed, (i.attempt + 1 < attempts ↔
    i.attempt + 1 < g.retry.config.maxAttempts ∧ i.error.IsTimeout)
  /-- An error with another one behind it is not tried again, whatever that one is. -/
  nested : ∀ i ∈ handed, ∀ c, i.error.Behind c → i.attempt + 1 = attempts
  /-- A fault that the last attempt hands over is reported as it is. -/
  unchanged : ∀ i ∈ handed, i.attempt + 1 = attempts → ∀ f, i.error = .fault f → error = some f
  /-- Anything else is wrapped once, with all that is behind it. -/
  wrapped : ∀ i ∈ handed, i.attempt + 1 = attempts → (∀ f, i.error ≠ .fault f) →
    error = some (.failed i.error) ∧
      (Fault.failed i.error).sources = i.error.message :: i.error.sources
  /-- A fault within a fault comes from the work. -/
  single : ∀ f, error = some (.failed (.fault f)) →
    ∃ i ∈ handed, i.attempt + 1 = attempts ∧ i.error = .fault (.failed (.fault f))

variable {g : Guard} {p : Breaker.Permit} {b : Breaker} {handed : List (Incident Cause)}
  {attempts : Nat} {error : Option Fault}

theorem classified_of_rejected {rejection : Rejection}
    (hr : g.breaker.request = (.error rejection, b)) :
    Classified g [] 0 (some (.circuitOpen rejection)) where
  refused rejection' b' hr' := by
    rw [hr] at hr'
    cases hr'
    exact ⟨rfl, rfl, rfl⟩
  granted p b' hr' := by
    rw [hr] at hr'
    cases hr'
  numbers h := absurd h (Nat.lt_irrefl 0)
  again := nofun
  nested := nofun
  unchanged := nofun
  wrapped := nofun
  single f h := by cases h

theorem classified_of_handled (hr : g.breaker.request = (.ok p, b))
    (h : Handled g.retry.config.maxAttempts 0 handed attempts error) :
    Classified g handed attempts error where
  refused rejection b' hr' := by
    rw [hr] at hr'
    cases hr'
  granted _ _ _ := h.lt
  numbers _ := by
    rw [h.numbers, List.range_eq_range']
    rfl
  again i hi := h.again_iff hi
  nested i hi c hc := by
    have hno := (h.again_iff hi).not.mpr fun hagain => Cause.not_isTimeout_of_behind hc hagain.2
    have hle := h.lt_of_mem hi
    omega
  unchanged i hi hlast f hf := by
    rw [h.reported hi hlast, hf]
    rfl
  wrapped i hi hlast hno := by
    refine ⟨?_, rfl⟩
    rw [h.reported hi hlast, (Fault.ofCause_eq_failed_iff.mpr (.inr ⟨rfl, hno⟩))]
  single f hf := by
    obtain ⟨i, hi, hlast⟩ := h.exists_last (by simp [hf])
    refine ⟨i, hi, hlast, ?_⟩
    have hreported := hf.symm.trans (h.reported hi hlast)
    rcases Fault.ofCause_eq_failed_iff.mp (Option.some.inj hreported).symm with hfault | ⟨hc, hno⟩
    · exact hfault
    · exact absurd hc (hno f)

/-- A call that is run to its end. -/
theorem classified_run (hp : g.retry.policy = policy) (work : Nat → Act σ Cause α)
    (pause : Duration → Observed σ Cause → Observed σ Cause)
    (hpause : ∀ d s, (pause d s).incidents = s.incidents) (around : σ) :
    let done := g.run (fun n => (work n).observed n id) pause ⟨around, []⟩
    Classified g done.2.2.incidents done.1.attempts (failure? done.1.result) := by
  intro done
  rcases hr : g.breaker.request with ⟨answer, b⟩
  cases answer with
  | error rejection =>
    have hdone : done = (⟨.error (.circuitOpen rejection), 0⟩, { g with breaker := b }, _) :=
      run_of_rejected hr _ pause ⟨around, []⟩
    rw [hdone]
    exact classified_of_rejected hr
  | ok p =>
    have hdone : done = conclude p b g.retry _ := run_eq_conclude hr _ pause ⟨around, []⟩
    have hwork (k : Nat) (s : Observed σ Cause) :
        let reply := reported (fun n => (work n).observed n id) k s
        HandsOver k s reply.2 (failure? reply.1) := handsOver_act k (work k) s
    obtain ⟨handed, hlog, hhandled⟩ := Retry.handled_pursue hp hwork hpause 0 .zero ⟨around, []⟩
    obtain rfl := hlog.trans (List.nil_append _)
    rw [hdone]
    exact classified_of_handled hr hhandled

/-- A stream that is read to its end. -/
theorem classified_reading (hp : g.retry.policy = policy) (subscriptions : Nat → Script σ Cause α)
    (around : σ) (polls : List Instant) :
    let reading := (Reading.start (Guard.stream fun n => (subscriptions n).observed n)
      (g, (⟨around, []⟩ : Observed σ Cause))).run source polls
    reading.IsOver → ∃ (values : List α) (error : Option Fault),
      reading.results = values.map .ok ++ error.toList.map .error ∧
        Classified g reading.world.2.incidents (Stream.attempts reading.stream) error := by
  intro reading hover
  let t : Retrying (Script (Observed σ Cause) Fault α) :=
    .start fun n => ((subscriptions n).observed n).mapError .ofCause
  rcases hr : g.breaker.request with ⟨answer, b⟩
  cases answer with
  | error rejection =>
    obtain ⟨hresults, hattempts, hworld⟩ :=
      over_of_rejected hr (Script.source (Observed σ Cause) Fault α) t ⟨around, []⟩ polls hover
    refine ⟨[], some (.circuitOpen rejection), hresults, ?_⟩
    rw [show reading.world = _ from hworld, show Stream.attempts reading.stream = _ from hattempts]
    exact classified_of_rejected hr
  | ok p =>
    obtain ⟨hresults, hattempts, hworld⟩ :=
      over_of_granted (Script.plays (Observed σ Cause) Fault α) hr (t := t) (Nat.zero_le _) rfl rfl
        polls hover
    obtain ⟨handed, values, error, hlog, hcourse, hhandled⟩ := Retrying.handled_courseOf hp
      (fun k s => handsOver_play k (subscriptions k) s) 0 ⟨around, []⟩
    obtain rfl := hlog.trans (List.nil_append _)
    refine ⟨values, error, Eq.trans hresults hcourse, ?_⟩
    rw [show reading.world = _ from hworld, show Stream.attempts reading.stream = _ from hattempts]
    exact classified_of_handled hr hhandled

/-- **Errors are classified for what they are.** Work may end every attempt with an error of any
kind and with any errors behind it. In all three shapes of a guarded call, run to its end, held and
polled until it is ready, or read as a stream to its end, and both of these are under every patient
schedule, another attempt follows an error only if it is itself the fault that no reply came, and
attempts are left. The last error is reported unchanged if it is a fault, and wrapped once if it is
none; a fault is never wrapped. -/
theorem errors_are_classified {g : Guard} (hp : g.retry.policy = policy)
    (work : Nat → Act σ Cause α) (pause : Duration → σ → σ) (waits : Nat → Nat)
    (subscriptions : Nat → Script σ Cause α) (around : σ) :
    let act n := (work n).observed n id
    let s : Observed σ Cause := ⟨around, []⟩
    let blocking := g.run act (fun d s => { s with around := pause d s.around }) s
    let future := Call.Held.run (.pending (.unstarted fun n => ⟨waits n, act n⟩), g, s)
    let stream := (Reading.start (Guard.stream fun n => (subscriptions n).observed n) (g, s)).run
      source
    Classified g blocking.2.2.incidents blocking.1.attempts (failure? blocking.1.result) ∧
    (∀ polls answer g' s', future polls = (.ready answer, g', s') →
      Classified g s'.incidents answer.attempts (failure? answer.result)) ∧
    (∀ polls, (stream polls).IsOver → ∃ (values : List α) (error : Option Fault),
      (stream polls).results = values.map .ok ++ error.toList.map .error ∧
        Classified g (stream polls).world.2.incidents (Stream.attempts (stream polls).stream)
          error) ∧
    ∀ polls, Patient polls → (∃ k, (future (firstPolls polls k)).IsReady) ∧
      ∃ k, (stream (firstPolls polls k)).IsOver := by
  intro act s blocking future stream
  let held : Call.Held (Observed σ Cause) α :=
    (.pending (.unstarted fun n => ⟨waits n, act n⟩), g, s)
  have hsane : held.Sane := trivial
  refine ⟨classified_run hp work (fun d s => { s with around := pause d s.around })
      (fun _ _ => rfl) around, fun polls answer g' s' hfuture => ?_,
    classified_reading hp subscriptions around, fun polls hpatient => ⟨?_, ?_⟩⟩
  · have hanswer : (future polls).answer = g.run act (fun _ s => s) s :=
      Call.Held.answer_run hsane polls
    rw [hfuture] at hanswer
    have hclassified := classified_run hp work (fun _ s => s) (fun _ _ => rfl) around
    rwa [← hanswer] at hclassified
  · exact Call.Held.advances.exists_over hpatient held hsane rfl
  · exact exists_reading_isOver (Script.plays (Observed σ Cause) Fault α) hpatient (Nat.zero_le _)
      rfl rfl s

/-- A guard that allows three attempts. -/
def thrice : Guard :=
  ⟨.fresh "thrice" {} .zero,
    ⟨"thrice", { backoff := .fixed (.ofMillis 5) }, policy, fun _ => .zero false, {}⟩⟩

/-- Work that gets no reply at first, and is then told that another part of it got none. -/
def hidden : Nat → Act Unit Cause Nat := fun n world =>
  let timeout := Cause.fault (.timedOut (.ofMillis 10))
  (.error (if n = 0 then timeout else .wrapping "no quorum" timeout), world)

/-- The missing reply is tried again; the error with a missing reply behind it is not, and it is
reported as the error from outside that it is, after two of three attempts. -/
theorem classification_of_hidden :
    let done := thrice.run (fun n => (hidden n).observed n id) (fun _ s => s) ⟨(), []⟩
    let timeout := Cause.fault (.timedOut (.ofMillis 10))
    done.2.2.incidents = [⟨0, timeout⟩, ⟨1, .wrapping "no quorum" timeout⟩] ∧
      done.1.attempts = 2 ∧
      failure? done.1.result = some (.failed (.wrapping "no quorum" timeout)) := by
  intro done timeout
  have hincidents : done.2.2.incidents = [⟨0, timeout⟩, ⟨1, .wrapping "no quorum" timeout⟩] := by
    rfl
  obtain ⟨h, -⟩ := errors_are_classified (g := thrice) rfl hidden (fun _ s => s) (fun _ => 0)
    (fun _ => ([] : Script Unit Cause Nat)) ()
  have hmem : ⟨1, .wrapping "no quorum" timeout⟩ ∈ done.2.2.incidents := by
    rw [hincidents]
    exact List.mem_cons_of_mem _ (List.mem_singleton_self _)
  have hlast : 1 + 1 = done.1.attempts := h.nested _ hmem timeout (.single rfl)
  exact ⟨hincidents, hlast.symm, (h.wrapped _ hmem hlast nofun).1⟩

end Guard

end ClusterGuard
