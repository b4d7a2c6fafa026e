import ClusterGuard.Proofs.Guard.Traffic

/-!
# The accounts of guarded calls

An `Account` lists what a call may have done to its guard, in order, and what it has delivered for
that. A call that was never run or polled has done nothing; one that was has asked once; and it ends
in one of four ways: rejected, answered, or as a stream that ended or broke, or it is dropped.

An account says nothing of what a call holds inside; `Fits` does, and is what a turn keeps up.

Results:
* `account_of_fits`: a call that fits has an account.
* **`fair_turn`**, `fair_drop`: a turn of a call keeps its account, and so does dropping it.
-/

namespace ClusterGuard.Guard

open Breaker (Permit Outcome)

variable {σ τ α : Type}

/-! ## Accounts -/

/-- How a call stands with its holder. -/
inductive Standing where
  | live
  /-- The last result was delivered. -/
  | finished
  | dropped

/-- How a call stands. A stream that has delivered its last item is over, even while it is held. -/
def Handle.standing : Handle σ τ α → Standing
  | blocking _ | future _ => .live
  | stream call => if call.gate = .done then .finished else .live
  | finished => .finished
  | dropped => .dropped

/-- **What a call may have done and delivered** that was invoked `n` times, at most `max` of which
are allowed. Calls that do not stream deliver one result. -/
inductive Account (max : Nat) : (streams begun : Bool) → Standing → List (Except Fault α) →
    List Deed → (n : Nat) → Prop
  /-- Neither run nor polled, whether still held or not. -/
  | idle {streams : Bool} {s : Standing} (h : s ≠ .finished) : Account max streams false s [] [] 0
  | rejected {streams : Bool} (r : Rejection) :
      Account max streams true .finished [.error (.circuitOpen r)] [.ask (.error r)] 0
  | running {streams : Bool} {n : Nat} (permit : Permit) (values : List α)
      (hv : streams = false → values = []) (hn : n ≤ max) :
      Account max streams true .live (values.map .ok) [.ask (.ok permit)] n
  /-- A blocking call that was counted, but has not handed in its outcome. -/
  | returning {n : Nat} (permit : Permit) (succeeded : Bool) (hpos : 0 < n) (hn : n ≤ max) :
      Account max false true .live [] [.ask (.ok permit), .count succeeded n] n
  | answered {n : Nat} (permit : Permit) (result : Except Fault α) (hpos : 0 < n) (hn : n ≤ max) :
      Account max false true .finished [result]
        [.ask (.ok permit), .count (Retry.succeeded result) n, .settle permit (.of result)] n
  | ended {n : Nat} (permit : Permit) (values : List α) (hpos : 0 < n) (hn : n ≤ max) :
      Account max true true .finished (values.map .ok)
        [.ask (.ok permit), .count true n, .settle permit .success] n
  | broken {n : Nat} (permit : Permit) (values : List α) (e : Fault) (hpos : 0 < n)
      (hn : n ≤ max) :
      Account max true true .finished (values.map .ok ++ [.error e])
        [.ask (.ok permit), .count false n, .settle permit .failure] n
  | dropped {streams : Bool} {n : Nat} (permit : Permit) (values : List α)
      (hv : streams = false → values = []) (hn : n ≤ max) :
      Account max streams true .dropped (values.map .ok)
        [.ask (.ok permit), .release permit] n

/-! ## What a call holds in the midst of its run -/

/-- What a call looks like inside that has this account. -/
inductive Fits (max place : Nat) :
    Caller (Scene σ) (Option Invocation × τ) α → List Deed → (n : Nat) → Prop
  | unrun {work : Nat → Act (Scene σ) Cause α} {pause : Duration → Scene σ → Scene σ}
      (hw : ∀ k, (work k).Notes ⟨place, k⟩) (hp : ∀ d s, (pause d s).journal = s.journal) :
      Fits max place ⟨.blocking ⟨work, pause, .unstarted⟩, false, false, []⟩ [] 0
  | working {work : Nat → Act (Scene σ) Cause α} {pause : Duration → Scene σ → Scene σ} {n : Nat}
      (hw : ∀ k, (work k).Notes ⟨place, k⟩) (hp : ∀ d s, (pause d s).journal = s.journal)
      (permit : Permit) (waited : Duration) (hn : n < max) :
      Fits max place ⟨.blocking ⟨work, pause, .working permit n waited⟩, false, true, []⟩
        [.ask (.ok permit)] n
  | returning {work : Nat → Act (Scene σ) Cause α} {pause : Duration → Scene σ → Scene σ}
      (permit : Permit) (ending : Retry.Ending Fault α) (hpos : 0 < ending.attempts)
      (hn : ending.attempts ≤ max) :
      Fits max place ⟨.blocking ⟨work, pause, .returning permit ending⟩, false, true, []⟩
        [.ask (.ok permit)] ending.attempts
  | counted {work : Nat → Act (Scene σ) Cause α} {pause : Duration → Scene σ → Scene σ}
      (permit : Permit) (ending : Retry.Ending Fault α) (hpos : 0 < ending.attempts)
      (hn : ending.attempts ≤ max) :
      Fits max place ⟨.blocking ⟨work, pause, .counted permit ending⟩, false, true, []⟩
        [.ask (.ok permit), .count (Retry.succeeded ending.result) ending.attempts] ending.attempts
  | unpolled {work : Work (Scene σ) Cause α} (hw : ∀ k, (work k).run.Notes ⟨place, k⟩) :
      Fits max place ⟨.future (.unstarted work), false, false, []⟩ [] 0
  | admitted {n : Nat} (permit : Permit) {task : Retry.Task (Scene σ) Fault α}
      (ht : task.Kept max place n) :
      Fits max place ⟨.future (.admitted permit task), false, true, []⟩ [.ask (.ok permit)] n
  | gated {inner : Retrying (Option Invocation × τ)} (hi : inner.Kept max place 0)
      (ht : inner.isTerminated = false) :
      Fits max place ⟨.stream ⟨.pending, inner⟩, true, false, []⟩ [] 0
  | passing {n : Nat} (permit : Permit) {inner : Retrying (Option Invocation × τ)}
      (values : List α) (hi : inner.Kept max place n) (ht : inner.isTerminated = false) :
      Fits max place ⟨.stream ⟨.admitted permit, inner⟩, true, true, values.map .ok⟩
        [.ask (.ok permit)] n
  | closed {inner : Retrying (Option Invocation × τ)} {results : List (Except Fault α)}
      {deeds : List Deed} {n : Nat} (h : Account max true true .finished results deeds n) :
      Fits max place ⟨.stream ⟨.done, inner⟩, true, true, results⟩ deeds n
  | finished {streams : Bool} {results : List (Except Fault α)} {deeds : List Deed} {n : Nat}
      (h : Account max streams true .finished results deeds n) :
      Fits max place ⟨.finished, streams, true, results⟩ deeds n
  | dropped {streams begun : Bool} {results : List (Except Fault α)} {deeds : List Deed} {n : Nat}
      (h : Account max streams begun .dropped results deeds n) :
      Fits max place ⟨.dropped, streams, begun, results⟩ deeds n

variable {max place n : Nat} {c : Caller (Scene σ) (Option Invocation × τ) α} {deeds : List Deed}

/-- A call that fits has an account. -/
theorem account_of_fits (h : Fits max place c deeds n) :
    Account max c.streams c.begun c.handle.standing c.results deeds n := by
  cases h with
  | unrun => exact .idle (by simp [Handle.standing])
  | working _ _ permit _ hn => exact .running permit [] (fun _ => rfl) (Nat.le_of_lt hn)
  | returning permit ending hpos hn => exact .running permit [] (fun _ => rfl) hn
  | counted permit ending hpos hn => exact .returning permit _ hpos hn
  | unpolled => exact .idle (by simp [Handle.standing])
  | admitted permit ht => exact .running permit [] (fun _ => rfl) ht.le
  | gated => exact .idle (by simp [Handle.standing])
  | passing permit values hi => exact .running permit values (fun h => by cases h) hi.le
  | closed h => exact h
  | finished h => exact h
  | dropped h => exact h

/-! ## A turn -/

/-- A turn that keeps the account: the guard is what the deeds make of it, the breaker gave the
answers reported, and the call goes on as its account says. -/
structure Fair (max place n : Nat) (c : Caller (Scene σ) (Option Invocation × τ) α)
    (deeds : List Deed) (g : Guard) (s : Scene σ) (begun : Bool)
    (turn : Turn (Scene σ) (Option Invocation × τ) α) : Prop where
  guard : turn.guard = g.after turn.deeds
  truthful : Truthful g turn.deeds
  goes_on : ∃ k, turn.scene.journal = s.journal ++ invocations place n k ∧
    Fits max place (c.take turn begun) (deeds ++ turn.deeds) (n + k)

variable {g : Guard} {s : Scene σ}

theorem no_invocations (s : Scene σ) (place n : Nat) :
    s.journal = s.journal ++ invocations place n 0 := (List.append_nil _).symm

section Blocking

variable {work : Nat → Act (Scene σ) Cause α} {pause : Duration → Scene σ → Scene σ}

theorem fair_unrun (hpos : 0 < max) (hw : ∀ k, (work k).Notes ⟨place, k⟩)
    (hp : ∀ d s, (pause d s).journal = s.journal) :
    Fair (τ := τ) max place 0 ⟨.blocking ⟨work, pause, .unstarted⟩, false, false, []⟩ [] g s true
      (Blocking.turn ⟨work, pause, .unstarted⟩ g s) := by
  rcases hr : g.breaker.request with ⟨answer, breaker⟩
  cases answer with
  | error r =>
    have hturn : Blocking.turn (τ := Option Invocation × τ) ⟨work, pause, .unstarted⟩ g s
        = ⟨.finished, some (.error (.circuitOpen r)), [.ask (.error r)], { g with breaker },
            s⟩ := by
      simp only [Blocking.turn, Blocking.step, hr]
    rw [hturn]
    exact ⟨(after_ask hr).symm, truthful_ask hr, 0, no_invocations .., .finished (.rejected r)⟩
  | ok permit =>
    have hturn : Blocking.turn (τ := Option Invocation × τ) ⟨work, pause, .unstarted⟩ g s
        = ⟨.blocking ⟨work, pause, .working permit 0 .zero⟩, none, [.ask (.ok permit)],
            { g with breaker }, s⟩ := by
      simp only [Blocking.turn, Blocking.step, hr]
    rw [hturn]
    exact ⟨(after_ask hr).symm, truthful_ask hr, 0, no_invocations ..,
      .working hw hp permit .zero hpos⟩

/-- An attempt of a blocking call does nothing to the guard. -/
theorem fair_working (hmax : g.retry.config.maxAttempts = max)
    (hw : ∀ k, (work k).Notes ⟨place, k⟩) (hp : ∀ d s, (pause d s).journal = s.journal)
    (permit : Permit) (waited : Duration) (hn : n < max) :
    Fair (τ := τ) max place n
      ⟨.blocking ⟨work, pause, .working permit n waited⟩, false, true, []⟩ [.ask (.ok permit)] g s
      true (Blocking.turn ⟨work, pause, .working permit n waited⟩ g s) := by
  have hleft := Retry.left_add hmax hn
  have hj : (reported work n s).2.journal = s.journal ++ invocations place n 1 := hw n s
  rcases hr : reported work n s with ⟨result, s'⟩
  rw [hr] at hj
  have hstep := Blocking.step_working (c := ⟨work, pause, .working permit n waited⟩) (g := g) rfl hr
  have hturn : Blocking.turn (τ := Option Invocation × τ)
        ⟨work, pause, .working permit n waited⟩ g s
      = ⟨.blocking (Blocking.next ⟨work, pause, .working permit n waited⟩ g permit n waited result
            s').1, none, [], g,
          (Blocking.next ⟨work, pause, .working permit n waited⟩ g permit n waited result
            s').2⟩ := by
    simp only [Blocking.turn, hstep]
  rw [hturn]
  refine ⟨rfl, trivial, 1, ?_⟩
  have hend : Fits (τ := τ) max place
      ⟨.blocking ⟨work, pause, .returning permit ⟨result, n + 1, waited⟩⟩, false, true, []⟩
      [.ask (.ok permit)] (n + 1) := .returning permit ⟨result, n + 1, waited⟩ (Nat.succ_pos n) hn
  cases result with
  | ok value => exact ⟨hj, hend⟩
  | error error =>
    cases hv : g.retry.verdict error (n + 1) with
    | giveUp =>
      rw [Blocking.next_of_giveUp _ hv]
      exact ⟨hj, hend⟩
    | wait d =>
      cases hl : g.retry.left n with
      | zero =>
        rw [Blocking.next_of_last _ hl]
        exact ⟨hj, hend⟩
      | succ left =>
        rw [Blocking.next_of_wait _ hv hl]
        refine ⟨?_, .working hw hp permit _ (by omega)⟩
        split
        · exact hj
        · exact (hp d s').trans hj

end Blocking

theorem truthful_closing (g : Guard) (permit : Permit) (ended : Option (Bool × Nat)) :
    Truthful g (closing permit ended) := by
  cases ended with
  | none => exact trivial
  | some ended => exact ⟨trivial, trivial, trivial⟩

/-- The outcome handed in is the one the result counts as. -/
theorem closing_of_result (permit : Permit) (result : Except Fault α) (attempts : Nat) :
    closing permit (some (Retry.succeeded result, attempts))
      = [.count (Retry.succeeded result) attempts, .settle permit (.of result)] := by
  cases result <;> rfl

section Future

variable {now : Instant} {permit : Permit} {g₀ : Guard}

/-- A held call that was let through, perhaps in the same turn. -/
theorem fair_proceed (asked : List Deed) (hmax : g.retry.config.maxAttempts = max) (hpos : 0 < max)
    {task : Retry.Task (Scene σ) Fault α} (ht : task.Kept max place n) (hg : g₀.after asked = g)
    (htrue : Truthful g₀ asked) (hd : deeds ++ asked = [.ask (.ok permit)])
    {handle : Handle (Scene σ) (Option Invocation × τ) α} {begun : Bool} :
    Fair max place n ⟨handle, false, begun, []⟩ deeds g₀ s true
      (Call.turned (fun ended => asked ++ closing permit ended)
        (Call.proceed permit task g now s)) := by
  obtain ⟨hk, hr⟩ := Retry.Task.kept_poll now hmax hpos ht s
  unfold Call.proceed
  rcases hp : task.poll g.retry now s with ⟨progress, retry, s'⟩
  rw [hp] at hk hr
  cases progress with
  | pending task' =>
    obtain ⟨k, hj, hkept⟩ := hk
    obtain rfl : retry = g.retry := hr
    simp only [Call.turned]
    refine ⟨?_, truthful_append htrue (truthful_closing ..), k, hj, ?_⟩
    · rw [after_append, hg]
      rfl
    · rw [← List.append_assoc, hd]
      exact .admitted permit hkept
  | ready ending =>
    obtain ⟨k, hj, he, hone, hle⟩ := hk
    obtain rfl : retry = g.retry.count (Retry.succeeded ending.result) ending.attempts := hr
    simp only [Call.turned, closing_of_result]
    refine ⟨?_, truthful_append htrue ⟨trivial, trivial, trivial⟩, k, hj, ?_⟩
    · rw [after_append, hg]
      rfl
    · rw [← List.append_assoc, hd, ← he]
      exact .finished (.answered permit ending.result hone hle)

theorem fair_unpolled (hmax : g.retry.config.maxAttempts = max) (hpos : 0 < max)
    {work : Work (Scene σ) Cause α} (hw : ∀ k, (work k).run.Notes ⟨place, k⟩) :
    Fair (τ := τ) max place 0 ⟨.future (.unstarted work), false, false, []⟩ [] g s true
      (Call.turn (.unstarted work) g now s) := by
  rcases hr : g.breaker.request with ⟨answer, breaker⟩
  cases answer with
  | error r =>
    have hturn : Call.turn (τ := Option Invocation × τ) (.unstarted work) g now s
        = ⟨.finished, some (.error (.circuitOpen r)), [.ask (.error r)], { g with breaker },
            s⟩ := by
      simp only [Call.turn, Call.turned, Call.poll, Call.permit?, polling, hr]
    rw [hturn]
    exact ⟨(after_ask hr).symm, truthful_ask hr, 0, no_invocations .., .finished (.rejected r)⟩
  | ok permit =>
    have hkept : (Retry.Task.start fun n => (work n).mapError Fault.ofCause).Kept max place 0 :=
      ⟨hw, rfl, rfl⟩
    have hd : ([] : List Deed) ++ [.ask (.ok permit)] = [.ask (.ok permit)] := rfl
    simp only [Call.turn, Call.poll, Call.permit?, hr]
    exact fair_proceed (g := { g with breaker }) [.ask (.ok permit)] hmax hpos hkept
      (after_ask hr) (truthful_ask hr) hd

theorem fair_admitted (hmax : g.retry.config.maxAttempts = max) (hpos : 0 < max)
    {task : Retry.Task (Scene σ) Fault α} (ht : task.Kept max place n) :
    Fair (τ := τ) max place n ⟨.future (.admitted permit task), false, true, []⟩
      [.ask (.ok permit)] g s true (Call.turn (.admitted permit task) g now s) :=
  fair_proceed [] hmax hpos ht rfl trivial rfl

end Future

section Stream

variable {now : Instant} {permit : Permit} {g₀ : Guard}
  {inner : Source σ τ Fault α}

/-- A stream that is let through goes on as if it had been admitted before. -/
theorem sourceOf_poll_of_granted {τ : Type} {inner : Source σ τ Fault α} {s : σ} {breaker : Breaker}
    (hr : g.breaker.request = (.ok permit, breaker)) (t : Retrying τ) :
    (sourceOf inner now).poll ⟨.pending, t⟩ (g, s)
      = (sourceOf inner now).poll ⟨.admitted permit, t⟩ ({ g with breaker }, s) := by
  simp only [sourceOf, Source.focus, Gated.source, Gated.poll, hr]

/-- A stream that is not let through delivers the rejection. -/
theorem sourceOf_poll_of_rejected {τ : Type} {inner : Source σ τ Fault α} {s : σ}
    {breaker : Breaker} {r : Rejection} (hr : g.breaker.request = (.error r, breaker))
    (t : Retrying τ) :
    (sourceOf inner now).poll ⟨.pending, t⟩ (g, s)
      = (.failure (.circuitOpen r), ⟨.done, t⟩, { g with breaker }, s) := by
  simp only [sourceOf, Source.focus, Gated.source, Gated.poll, hr]

/-- A stream that is done touches nothing. -/
theorem sourceOf_poll_of_done {τ : Type} {inner : Source σ τ Fault α} (s : σ) (t : Retrying τ) :
    (sourceOf inner now).poll ⟨.done, t⟩ (g, s) = (.ended, ⟨.done, t⟩, g, s) := by
  simp only [sourceOf, Source.focus, Gated.source, Gated.poll]

/-- A stream that was let through, perhaps in the same turn. -/
theorem fair_pass (asked : List Deed) (hmax : g.retry.config.maxAttempts = max) (hpos : 0 < max)
    {t : Retrying (Option Invocation × τ)} (ht : t.Kept max place n)
    (hlive : t.isTerminated = false) (hg : g₀.after asked = g) (htrue : Truthful g₀ asked)
    (hd : deeds ++ asked = [.ask (.ok permit)]) (values : List α)
    {handle : Handle (Scene σ) (Option Invocation × τ) α} {begun : Bool} :
    Fair max place n ⟨handle, true, begun, values.map .ok⟩ deeds g₀ s true
      (Stream.turned (fun ended => asked ++ closing permit ended)
        ((sourceOf inner.noted now).poll ⟨.admitted permit, t⟩ (g, s))) := by
  have hpoll := Retrying.kept_poll inner now hmax hpos ht hlive s
  rcases hp : t.poll inner.noted now g.retry s with ⟨signal, t', retry, s'⟩
  rw [hp] at hpoll
  obtain ⟨k, hj, hkept, hsignal⟩ := hpoll
  have hn : t'.attempts = n + k := hkept.2.1
  -- Asking came first, so that the stream met the guard `g`.
  have hguard (retry : Retry Fault) (ended : Option (Bool × Nat)) (b : Breaker)
      (hc : g.after (closing permit ended) = ⟨b, retry⟩) :
      (⟨b, retry⟩ : Guard) = g₀.after (asked ++ closing permit ended) := by
    rw [after_append, hg, hc]
  simp only [sourceOf, Source.focus, Gated.source, Gated.poll, Gated.pass, Retrying.source, hp]
  cases signal with
  | pending =>
    obtain ⟨rfl, hlive'⟩ := hsignal
    refine ⟨hguard _ none _ rfl, truthful_append htrue (truthful_closing ..), k, hj, ?_⟩
    rw [Caller.take_of_none rfl]
    simp only [Stream.turned, ← List.append_assoc, hd]
    exact .passing permit values hkept hlive'
  | value a =>
    obtain ⟨rfl, hlive'⟩ := hsignal
    refine ⟨hguard _ none _ rfl, truthful_append htrue (truthful_closing ..), k, hj, ?_⟩
    have hvalues : values.map Except.ok ++ [Except.ok a]
        = ((values ++ [a]).map Except.ok : List (Except Fault α)) := by simp
    simp only [Stream.turned, Caller.take, Option.toList, ← List.append_assoc, hd, hvalues]
    exact .passing permit (values ++ [a]) hkept hlive'
  | failure e =>
    obtain ⟨rfl, hone, hle⟩ := hsignal
    refine ⟨hguard _ (some (false, t'.attempts)) _ rfl,
      truthful_append htrue (truthful_closing ..), k, hj, ?_⟩
    simp only [Stream.turned, ← List.append_assoc, hd]
    rw [← hn]
    exact .closed (.broken permit values e hone hle)
  | ended =>
    obtain ⟨rfl, hone, hle⟩ := hsignal
    refine ⟨hguard _ (some (true, t'.attempts)) _ rfl,
      truthful_append htrue (truthful_closing ..), k, hj, ?_⟩
    rw [Caller.take_of_none rfl]
    simp only [Stream.turned, ← List.append_assoc, hd]
    rw [← hn]
    exact .closed (.ended permit values hone hle)

theorem fair_gated (hmax : g.retry.config.maxAttempts = max) (hpos : 0 < max)
    {t : Retrying (Option Invocation × τ)} (ht : t.Kept max place 0)
    (hlive : t.isTerminated = false) :
    Fair max place 0 ⟨.stream ⟨.pending, t⟩, true, false, []⟩ [] g s true
      (Stream.turn inner.noted ⟨.pending, t⟩ g now s) := by
  rcases hr : g.breaker.request with ⟨answer, breaker⟩
  cases answer with
  | error r =>
    simp only [Stream.turn, sourceOf_poll_of_rejected hr, Stream.turned, hr, polling]
    exact ⟨(after_ask hr).symm, truthful_ask hr, 0, no_invocations .., .closed (.rejected r)⟩
  | ok permit =>
    have hd : ([] : List Deed) ++ [.ask (.ok permit)] = [.ask (.ok permit)] := rfl
    simp only [Stream.turn, sourceOf_poll_of_granted hr, hr]
    exact fair_pass (g := { g with breaker }) [.ask (.ok permit)] hmax hpos ht hlive
      (after_ask hr) (truthful_ask hr) hd []

theorem fair_passing (hmax : g.retry.config.maxAttempts = max) (hpos : 0 < max)
    {t : Retrying (Option Invocation × τ)} (ht : t.Kept max place n)
    (hlive : t.isTerminated = false) (values : List α) :
    Fair max place n ⟨.stream ⟨.admitted permit, t⟩, true, true, values.map .ok⟩
      [.ask (.ok permit)] g s true (Stream.turn inner.noted ⟨.admitted permit, t⟩ g now s) :=
  fair_pass [] hmax hpos ht hlive rfl trivial rfl values

theorem fair_closed {t : Retrying (Option Invocation × τ)} {results : List (Except Fault α)}
    (h : Account max true true .finished results deeds n) :
    Fair max place n ⟨.stream ⟨.done, t⟩, true, true, results⟩ deeds g s true
      (Stream.turn inner.noted ⟨.done, t⟩ g now s) := by
  simp only [Stream.turn, sourceOf_poll_of_done, Stream.turned]
  refine ⟨rfl, trivial, 0, no_invocations .., ?_⟩
  rw [Caller.take_of_none rfl, List.append_nil]
  exact .closed h

end Stream

/-- **A turn keeps the account** of the call. -/
theorem fair_turn {inner : Source σ τ Fault α} {now : Instant}
    (hmax : g.retry.config.maxAttempts = max) (hpos : 0 < max) (h : Fits max place c deeds n)
    {turn : Turn (Scene σ) (Option Invocation × τ) α}
    (ht : c.handle.turn? inner.noted g now s = some turn) :
    Fair max place n c deeds g s true turn := by
  cases h with
  | unrun hw hp =>
    obtain rfl := Option.some.inj ht
    exact fair_unrun hpos hw hp
  | working hw hp permit waited hn =>
    obtain rfl := Option.some.inj ht
    exact fair_working hmax hw hp permit waited hn
  | returning permit ending hone hn =>
    obtain rfl := Option.some.inj ht
    exact ⟨rfl, ⟨trivial, trivial⟩, 0, no_invocations .., .counted permit ending hone hn⟩
  | counted permit ending hone hn =>
    obtain rfl := Option.some.inj ht
    refine ⟨rfl, ⟨trivial, trivial⟩, 0, no_invocations .., ?_⟩
    exact .finished (.answered permit ending.result hone hn)
  | unpolled hw =>
    obtain rfl := Option.some.inj ht
    exact fair_unpolled hmax hpos hw
  | admitted permit hk =>
    obtain rfl := Option.some.inj ht
    exact fair_admitted hmax hpos hk
  | gated hk hlive =>
    obtain rfl := Option.some.inj ht
    exact fair_gated hmax hpos hk hlive
  | passing permit values hk hlive =>
    obtain rfl := Option.some.inj ht
    exact fair_passing hmax hpos hk hlive values
  | closed h =>
    obtain rfl := Option.some.inj ht
    exact fair_closed h
  | finished => cases ht
  | dropped => cases ht

/-! ## Dropping a call -/

/-- What is dropped leaves no entry in the journal. -/
theorem journal_drop (inner : Source σ τ Fault α) (t : Retrying (Option Invocation × τ))
    (s : Scene σ) : (t.drop inner.noted s).journal = s.journal := by
  unfold Retrying.drop
  split <;> rfl

/-- Dropping a stream releases its permit, if it holds one. -/
theorem sourceOf_drop {τ : Type} (inner : Source σ τ Fault α) (now : Instant)
    (call : Gated (Retrying τ)) (g : Guard) (s : σ) :
    (sourceOf inner now).drop call (g, s)
      = (match call.gate with
          | .admitted permit => { g with breaker := g.breaker.release permit }
          | _ => g, call.inner.drop inner s) := by
  obtain ⟨gate, t⟩ := call
  cases gate <;> rfl

/-- **Dropping a call keeps its account.** -/
theorem fair_drop {inner : Source σ τ Fault α} {now : Instant} (h : Fits max place c deeds n)
    {turn : Turn (Scene σ) (Option Invocation × τ) α}
    (ht : c.handle.drop? inner.noted g now s = some turn) :
    Fair max place n c deeds g s c.begun turn := by
  cases h with
  | unrun =>
    obtain rfl := Option.some.inj ht
    exact ⟨rfl, trivial, 0, no_invocations .., .dropped (.idle (by simp))⟩
  | working hw hp permit waited hn =>
    obtain rfl := Option.some.inj ht
    refine ⟨rfl, ⟨trivial, trivial⟩, 0, no_invocations .., ?_⟩
    exact .dropped (.dropped permit [] (fun _ => rfl) (Nat.le_of_lt hn))
  | returning => cases ht
  | counted => cases ht
  | unpolled =>
    obtain rfl := Option.some.inj ht
    exact ⟨rfl, trivial, 0, no_invocations .., .dropped (.idle (by simp))⟩
  | admitted permit hk =>
    obtain rfl := Option.some.inj ht
    refine ⟨rfl, ⟨trivial, trivial⟩, 0, no_invocations .., ?_⟩
    exact .dropped (.dropped permit [] (fun _ => rfl) hk.le)
  | @gated t hk =>
    simp only [Handle.drop?, sourceOf_drop] at ht
    obtain rfl := Option.some.inj ht
    refine ⟨rfl, trivial, 0, ?_, .dropped (.idle (by simp))⟩
    exact (journal_drop inner t s).trans (no_invocations ..)
  | @passing n permit t values hk =>
    simp only [Handle.drop?, sourceOf_drop] at ht
    obtain rfl := Option.some.inj ht
    refine ⟨rfl, ⟨trivial, trivial⟩, 0, (journal_drop inner t s).trans (no_invocations ..), ?_⟩
    rw [Caller.take_of_none rfl]
    exact .dropped (.dropped permit values (fun h => by cases h) hk.le)
  | @closed t results deeds n h =>
    simp only [Handle.drop?, sourceOf_drop] at ht
    obtain rfl := Option.some.inj ht
    refine ⟨rfl, trivial, 0, (journal_drop inner t s).trans (no_invocations ..), ?_⟩
    rw [Caller.take_of_none rfl, List.append_nil]
    exact .finished h
  | finished => cases ht
  | dropped => cases ht

end ClusterGuard.Guard
