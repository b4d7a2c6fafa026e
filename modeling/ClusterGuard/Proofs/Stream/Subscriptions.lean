import ClusterGuard.Proofs.Guard.Ledger
import ClusterGuard.Proofs.Stream.Course
import Mathlib.Order.Bounds.Basic

/-!
# Retried streams, subscription by subscription

A `Subscription` is any finite sequence of values and moments at which nothing is ready, ended by an
error or by the end. Given one for each attempt, `Final` says which attempt is the last, and
`delivered` what a reader gets, without a word about polls, waits or the stages of a stream.

Results:
* `exists_course`: the course of a retried stream goes up to the first final attempt.
* **`retried_stream_refines_subscriptions`**: every schedule delivers a part of what subscriptions
  give, and every patient one all of it.
-/

namespace ClusterGuard

variable {σ τ ε α : Type}

/-- What one subscription gives. -/
structure Subscription (ε α : Type) where
  /-- The values in order; nothing where it is not ready. -/
  items : List (Option α)
  /-- The error it ends in, if it does. -/
  error : Option ε

namespace Subscription

/-- The values of a subscription. -/
def values (s : Subscription ε α) : List α := s.items.filterMap id

/-- One item of a subscription in a script. -/
def item : Option α → Item σ ε α
  | none => .pause
  | some a => .of (.ok a)

/-- The script that plays a subscription. -/
def script (s : Subscription ε α) : Script σ ε α :=
  s.items.map item ++ (s.error.map fun e => .of (.error e)).toList

theorem play_script (s : Subscription ε α) (world : σ) :
    s.script.play world = (s.values, s.error, world) := by
  obtain ⟨items, error⟩ := s
  induction items with
  | nil => cases error <;> rfl
  | cons i items ih =>
    cases i with
    | none => exact ih
    | some a =>
      have hplay : (script ⟨some a :: items, error⟩ : Script σ ε α).play world
          = (a :: ((script ⟨items, error⟩ : Script σ ε α).play world).1,
            ((script ⟨items, error⟩ : Script σ ε α).play world).2) := rfl
      rw [hplay, ih]
      rfl

/-- Whether no attempt follows number `n`, counted from one: its subscription ends without an error,
the policy says stop, or it is the last one allowed. -/
def Final (r : Retry ε) (subs : Nat → Subscription ε α) (n : Nat) : Prop :=
  0 < n ∧ ((subs (n - 1)).error = none ∨
    (∃ e, (subs (n - 1)).error = some e ∧ r.policy e (n - 1) = .stop) ∨
    n = r.config.maxAttempts)

/-- What a reader gets of the first `n` subscriptions: all their values, and the error of the last
one. -/
def delivered (subs : Nat → Subscription ε α) (n : Nat) : List (Except ε α) :=
  (List.range n).flatMap (fun k => (subs k).values.map .ok) ++
    ((subs (n - 1)).error.map .error).toList

end Subscription

/-- Which counter a call moves: the two of successes come first, and in each pair that of a first
attempt. -/
def Retry.Tally.place (succeeded : Bool) (attempts : Nat) : Nat :=
  (if succeeded then 0 else 2) + if 1 < attempts then 1 else 0

/-- A call moves one counter, and no other. -/
theorem Retry.Tally.counters_count_eq (t : Tally) (succeeded : Bool) (attempts : Nat) :
    (t.count succeeded attempts).counters
      = t.counters.modify (place succeeded attempts) (· + 1) := by
  unfold count place
  by_cases h : 1 < attempts <;> cases succeeded <;> simp [h, counters]

theorem Retry.verdict_eq_giveUp_iff (r : Retry ε) (e : ε) (n : Nat) :
    r.verdict e n = .giveUp ↔ r.policy e (n - 1) = .stop ∨ r.config.maxAttempts ≤ n := by
  unfold verdict
  cases r.policy e (n - 1) <;> simp

namespace Retrying

open Subscription (Final delivered)

variable {r : Retry ε} {subs : Nat → Subscription ε α} {caller : Nat}

/-- A retried stream over these subscriptions, which keeps a journal of the subscriptions it has
begun. -/
def subscribing (caller : Nat) (subs : Nat → Subscription ε α) :
    Retrying (Option Invocation × Script σ ε α) :=
  .start fun k => (some ⟨caller, k⟩, (subs k).script)

/-- What is left from attempt number `k + 1` on, if all attempts up to number `n` are made. -/
def remaining (caller : Nat) (subs : Nat → Subscription ε α) (s : Scene σ) (k n : Nat) :
    Course (Scene σ) ε α where
  results := (List.range' k (n - k)).flatMap (fun k => (subs k).values.map .ok) ++
    ((subs (n - 1)).error.map .error).toList
  succeeded := (subs (n - 1)).error.isNone
  attempts := n
  world := ⟨s.around, s.journal ++ invocations caller k (n - k)⟩

theorem remaining_last (s : Scene σ) (k : Nat) :
    remaining caller subs s k (k + 1)
      = ⟨(subs k).values.map .ok ++ ((subs k).error.map .error).toList,
          (subs k).error.isNone, k + 1,
          ⟨s.around, s.journal ++ [⟨caller, k⟩]⟩⟩ := by
  simp [remaining, invocations]

theorem remaining_succ (s : Scene σ) {k n : Nat} (h : k + 1 < n) :
    remaining caller subs s k n
      = (remaining caller subs ⟨s.around, s.journal ++ [⟨caller, k⟩]⟩ (k + 1) n).after
          ((subs k).values.map .ok) := by
  obtain ⟨m, hm⟩ : ∃ m, n - k = m + 1 := ⟨n - k - 1, by omega⟩
  have hm' : n - (k + 1) = m := by omega
  simp [remaining, Course.after, hm, hm', invocations, List.range'_succ]

/-- From any attempt on, the course goes up to the next final one. -/
theorem exists_courseOf (caller : Nat) (subs : Nat → Subscription ε α) (s : Scene σ) (k : Nat)
    (hk : k < r.config.maxAttempts) :
    ∃ n, k < n ∧ Final r subs n ∧ (∀ m, k < m → m < n → ¬Final r subs m) ∧
      courseOf (Source.notedPlay Script.play) r (subscribing caller subs).subscribe
        (r.left k) (k + 1)
        (Source.notedPlay Script.play ((subscribing caller subs).subscribe k) s)
      = remaining caller subs s k n := by
  have hplay : Source.notedPlay Script.play ((subscribing caller subs).subscribe k) s
      = ((subs k).values, (subs k).error, ⟨s.around, s.journal ++ [⟨caller, k⟩]⟩) := by
    simp [Source.notedPlay, subscribing, start, Subscription.play_script]
  -- The induction is on the attempts left.
  induction hleft : r.config.maxAttempts - k generalizing k s with
  | zero => omega
  | succ left ih =>
    rw [hplay]
    cases herror : (subs k).error with
    | none =>
      refine ⟨k + 1, Nat.lt_succ_self k, ⟨Nat.succ_pos k, .inl herror⟩, fun m h h' => by omega, ?_⟩
      rw [courseOf_of_ended, remaining_last, herror]
      simp
    | some e =>
      cases hv : r.verdict e (k + 1) with
      | giveUp =>
        refine ⟨k + 1, Nat.lt_succ_self k, ⟨Nat.succ_pos k, .inr ?_⟩, fun m h h' => by omega, ?_⟩
        · rcases (r.verdict_eq_giveUp_iff e (k + 1)).mp hv with hstop | hmax
          · exact .inl ⟨e, herror, hstop⟩
          · exact .inr (by omega)
        · rw [courseOf_of_giveUp hv, remaining_last, herror]
          rfl
      | wait d =>
        have hlt := Retry.lt_of_wait hv
        obtain ⟨n, hn, hfinal, hnone, hcourse⟩ := ih ⟨s.around, s.journal ++ [⟨caller, k⟩]⟩ (k + 1)
          hlt (by simp [Source.notedPlay, subscribing, start, Subscription.play_script]) (by omega)
        refine ⟨n, by omega, hfinal, fun m h h' => ?_, ?_⟩
        · rcases Nat.lt_or_ge (k + 1) m with hm | hm
          · exact hnone m hm h'
          · obtain rfl : m = k + 1 := by omega
            rintro ⟨-, hnone | ⟨e', he', hstop⟩ | hmax⟩
            · rw [Nat.add_sub_cancel, herror] at hnone
              cases hnone
            · rw [Nat.add_sub_cancel, herror] at he'
              obtain rfl := Option.some.inj he'
              rw [(r.verdict_eq_giveUp_iff e (k + 1)).mpr (.inl hstop)] at hv
              cases hv
            · omega
        · have hlast : r.left k = r.left (k + 1 - 1) := by rw [Nat.add_sub_cancel]
          rw [hlast, courseOf_of_wait hv (Nat.succ_pos k), hcourse, remaining_succ s hn]

/-- The course of a stream over these subscriptions goes up to the first final one. -/
theorem exists_course (hpos : 0 < r.config.maxAttempts) (caller : Nat)
    (subs : Nat → Subscription ε α) (around : σ) :
    ∃ n, IsLeast {n | Final r subs n} n ∧
      (subscribing caller subs).course (Source.notedPlay Script.play) r ⟨around, []⟩
        = ⟨delivered subs n, (subs (n - 1)).error.isNone, n, ⟨around, invocations caller 0 n⟩⟩ := by
  obtain ⟨n, hn, hfinal, hnone, hcourse⟩ := exists_courseOf caller subs ⟨around, []⟩ 0 hpos
  refine ⟨n, ⟨hfinal, fun m hm => ?_⟩, ?_⟩
  · by_contra hlt
    exact hnone m hm.1 (Nat.lt_of_not_le hlt) hm
  · refine hcourse.trans ?_
    simp [remaining, delivered, List.range_eq_range']

/-! ## The refinement -/

/-- What is true at any time of a stream over these subscriptions whose last attempt is number
`n`. -/
structure Refines (r : Retry ε) (subs : Nat → Subscription ε α) (caller n : Nat)
    (reading : Reading (Retry ε × Scene σ) (Retrying (Option Invocation × Script σ ε α)) ε α) :
    Prop where
  /-- The next poll returns. -/
  returns : ∀ now, Loop (Script.source σ ε α).noted now reading.world.1 reading.stream
    reading.world.2
    (reading.stream.poll (Script.source σ ε α).noted now reading.world.1 reading.world.2)
  /-- Nothing is dropped, reordered or delivered twice. -/
  delivers : reading.results <+: delivered subs n
  /-- The subscriptions were begun in order, once each. -/
  invokes : reading.world.2.journal = invocations caller 0 reading.stream.attempts
  attempts_le : reading.stream.attempts ≤ n
  terminated : reading.stream.isTerminated = true ↔ reading.IsOver
  live : ¬reading.IsOver → reading.world.1 = r
  complete : reading.IsOver → reading.results = delivered subs n ∧ reading.stream.attempts = n ∧
    reading.world.1 = r.count (subs (n - 1)).error.isNone n
  /-- After the end there is no further work, whatever the inner streams would do. -/
  quiet : reading.IsOver → ∀ (source : Source (Scene σ) (Option Invocation × Script σ ε α) ε α) now,
    reading.stream.poll source now reading.world.1 reading.world.2
      = (.ended, reading.stream, reading.world.1, reading.world.2)

/-- Whether the journal of a reading says which subscriptions it has begun. -/
def Begun (max caller : Nat)
    (reading : Reading (Retry ε × Scene σ) (Retrying (Option Invocation × τ)) ε α) : Prop :=
  reading.world.1.config.maxAttempts = max ∧
    reading.world.2.journal = invocations caller 0 reading.stream.attempts ∧
    reading.stream.Kept max caller reading.stream.attempts

theorem begun_poll {max : Nat} (hpos : 0 < max) {inner : Source σ τ ε α}
    {reading : Reading (Retry ε × Scene σ) (Retrying (Option Invocation × τ)) ε α}
    (h : Begun max caller reading) (now : Instant) :
    Begun max caller (reading.poll (Retrying.source inner.noted) now) := by
  obtain ⟨hmax, hj, hkept⟩ := h
  unfold Reading.poll
  cases ht : reading.stream.isTerminated with
  | true =>
    simp only [Retrying.source, poll_of_terminated inner.noted now ht]
    exact ⟨hmax, hj, hkept⟩
  | false =>
    have hpolled := kept_poll inner now hmax hpos hkept ht reading.world.2
    simp only [Retrying.source]
    rcases hp : reading.stream.poll inner.noted now reading.world.1 reading.world.2
      with ⟨signal, t', r', s'⟩
    rw [hp] at hpolled
    obtain ⟨k, hj', hkept', hsignal⟩ := hpolled
    have hattempts : t'.attempts = reading.stream.attempts + k := hkept'.2.1
    refine ⟨?_, ?_, ?_⟩
    · show r'.config.maxAttempts = max
      cases signal with
      | pending => exact hsignal.1 ▸ hmax
      | value => exact hsignal.1 ▸ hmax
      | failure => exact hsignal.1 ▸ hmax
      | ended => exact hsignal.1 ▸ hmax
    · show s'.journal = invocations caller 0 t'.attempts
      rw [hj', hj, hattempts]
      simpa using invocations_append caller 0 reading.stream.attempts k
    · exact hattempts.symm ▸ hkept'

/-- The journal of a reading says which subscriptions were begun. -/
theorem begun_run (hpos : 0 < r.config.maxAttempts) (caller : Nat)
    (subs : Nat → Subscription ε α) (around : σ) (polls : List Instant) :
    Begun r.config.maxAttempts caller
      ((Reading.start (subscribing caller subs) (r, ⟨around, []⟩)).run
      (Retrying.source (Script.source σ ε α).noted) polls) :=
  Reading.run_induction (P := Begun r.config.maxAttempts caller) ⟨rfl, rfl, fun _ => rfl, rfl, rfl⟩
    (fun _ now h => begun_poll hpos h now) polls

theorem refines_of_follows {n : Nat} {around : σ}
    {reading : Reading (Retry ε × Scene σ) (Retrying (Option Invocation × Script σ ε α)) ε α}
    (hbegun : Begun r.config.maxAttempts caller reading)
    (h : Follows (Source.notedPlay Script.play) r ⟨delivered subs n, (subs (n - 1)).error.isNone, n,
      ⟨around, invocations caller 0 n⟩⟩ reading) : Refines r subs caller n reading := by
  have hreturns (now : Instant) := loop_poll (Script.source σ ε α).noted now h.sane reading.world.2
  have hterminated := h.isTerminated_iff
  cases h with
  | part hr hs ht hover hc =>
    have hle := le_attempts_course (Source.notedPlay Script.play) r reading.stream reading.world.2
    have hresults := congrArg Course.results hc
    have hattempts := congrArg Course.attempts hc
    exact {
      returns := hreturns
      delivers := ⟨_, hresults.symm⟩
      invokes := hbegun.2.1
      attempts_le := hle.trans_eq hattempts.symm
      terminated := hterminated
      live := fun _ => hr
      complete := fun h => absurd h hover
      quiet := fun h => absurd h hover }
  | finished hr ht hover hc =>
    have hresults := congrArg Course.results hc
    have hattempts := congrArg Course.attempts hc
    exact {
      returns := hreturns
      delivers := ⟨[], (List.append_nil _).trans hresults.symm⟩
      invokes := hbegun.2.1
      attempts_le := hattempts.symm.le
      terminated := hterminated
      live := fun h => absurd hover h
      complete := fun _ => ⟨hresults.symm, hattempts.symm, hr⟩
      quiet := fun _ source now => poll_of_terminated source now ht _ _ }

/-- **A retried stream refines its subscriptions.** Let `n` be the first attempt that none follows.
Every schedule delivers a part of what the first `n` subscriptions give, begins them in order,
and never more of them; every patient one comes to the end, delivers all of it, and the retry has
then counted the stream once. -/
theorem retried_stream_refines_subscriptions (hr : r.config.validate = .ok ()) (caller : Nat)
    (subs : Nat → Subscription ε α) (around : σ) :
    let reading := (Reading.start (subscribing caller subs) (r, ⟨around, []⟩)).run
      (Retrying.source (Script.source σ ε α).noted)
    ∃ n, IsLeast {n | Final r subs n} n ∧
      (∀ polls, Refines r subs caller n (reading polls) ∧
        ((reading polls).stream.attempts = 0 ↔ polls = [])) ∧
      (∀ polls, Patient polls → ∃ k, (reading (firstPolls polls k)).IsOver) ∧
      (r.count (subs (n - 1)).error.isNone n).tally.counters
        = r.tally.counters.modify (Retry.Tally.place (subs (n - 1)).error.isNone n) (· + 1) := by
  intro reading
  have hpos : 0 < r.config.maxAttempts := (r.config.validate_ok_iff.mp hr).1
  obtain ⟨n, hn, hcourse⟩ := exists_course (r := r) hpos caller subs around
  have hplays := (Script.plays σ ε α).noted
  have hsane : (subscribing caller subs : Retrying (Option Invocation × Script σ ε α)).Sane r :=
    Nat.zero_le _
  have hrefines (polls : List Instant) : Refines r subs caller n (reading polls) := by
    have hfollows := follows_run hplays hsane rfl ⟨around, []⟩ polls
    rw [hcourse] at hfollows
    exact refines_of_follows (begun_run hpos caller subs around polls) hfollows
  refine ⟨n, hn, fun polls => ⟨hrefines polls, ?_⟩, fun polls hp => ?_,
    Retry.Tally.counters_count_eq ..⟩
  · cases polls with
    | nil => exact ⟨fun _ => rfl, fun _ => rfl⟩
    | cons now polls =>
      have hfirst := attempts_run_pos hplays hsane rfl ⟨around, []⟩ now polls
      exact ⟨fun h => absurd h (Nat.ne_of_gt hfirst), fun h => by cases h⟩
  · obtain ⟨k, hk⟩ := exists_terminated hplays hp hsane rfl ⟨around, []⟩
    exact ⟨k, (hrefines _).terminated.mp hk⟩

/-- A retry with the usual configuration, whose policy never says stop. -/
def persistent : Retry String := ⟨"persistent", {}, .always, fun _ => .zero false, {}⟩

/-- The first subscription breaks after a value, the next one ends after another. -/
def brokenOnce (k : Nat) : Subscription String Nat :=
  if k = 0 then ⟨[some 1, none], some "lost"⟩ else ⟨[some 2], none⟩

theorem least_final_brokenOnce : IsLeast {n | Final persistent brokenOnce n} 2 := by
  refine ⟨⟨by decide, .inl rfl⟩, fun m hm => ?_⟩
  obtain ⟨hpos, hfinal⟩ := hm
  by_contra hlt
  obtain rfl : m = 1 := by omega
  rcases hfinal with hnone | ⟨e, -, hstop⟩ | hmax
  · cases hnone
  · cases hstop
  · cases hmax

/-- Somebody who polls once at the beginning, and then only when every timer has fired. -/
def sluggish (k : Nat) : Instant := if k = 0 then .zero else .longest

theorem patient_sluggish : Patient sluggish :=
  fun k d => ⟨k + 1, Nat.lt_succ_self k, (deadline (sluggish k) d).le_max⟩

/-- Both values are delivered in the end, and the stream is counted as one that took a second
attempt. -/
theorem refinement_of_brokenOnce :
    let reading := (Reading.start (subscribing 0 brokenOnce) (persistent, ⟨(), []⟩)).run
      (Retrying.source (Script.source Unit String Nat).noted)
    persistent.config.validate = .ok () ∧ Patient sluggish ∧
      ∃ k, (reading (firstPolls sluggish k)).results = [.ok 1, .ok 2] ∧
        (reading (firstPolls sluggish k)).world.2.journal = invocations 0 0 2 ∧
        (reading (firstPolls sluggish k)).world.1.tally.counters = [0, 1, 0, 0] := by
  intro reading
  have hr : persistent.config.validate = .ok () := rfl
  obtain ⟨n, hn, hrefines, hends, hcounters⟩ :=
    retried_stream_refines_subscriptions hr 0 brokenOnce ()
  obtain rfl : n = 2 := hn.unique least_final_brokenOnce
  obtain ⟨k, hover⟩ := hends sluggish patient_sluggish
  obtain ⟨hresults, hattempts, hretry⟩ := (hrefines (firstPolls sluggish k)).1.complete hover
  refine ⟨hr, patient_sluggish, k, hresults, ?_, ?_⟩
  · rw [(hrefines (firstPolls sluggish k)).1.invokes, hattempts]
  · rw [hretry, hcounters]
    rfl

end Retrying

end ClusterGuard
