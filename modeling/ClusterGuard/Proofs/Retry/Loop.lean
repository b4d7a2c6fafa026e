import ClusterGuard.Proofs.Retry.Task
import ClusterGuard.Proofs.Stream.Subscriptions
import Mathlib.Algebra.GroupWithZero.Nat

/-!
# What a retried call comes to

If the results of all attempts are known in advance, so is the whole call: `Final` says which
attempt is the last, `waitAfter` how long the wait after each of the others is, and `happenings`
what the surroundings go through. Beside the recursion of `pursue`, which is bounded by the attempts
left, `Loop` is the same call as a loop without a bound, whose counter has 32 bits and whose sum of
the waits has to be a duration.

Results:
* `exists_least_final`: there is a last attempt.
* `pursue_of_final`: the call goes up to the first final attempt.
* `loop_of_final`, `Loop.unique`: so does the loop, and its counter takes every value once.
* **`retry_loop_is_characterized`**: all of it, for a call from its beginning.
-/

namespace ClusterGuard.Retry

variable {σ ε α : Type} {r : Retry ε} {results : Nat → Except ε α}

/-! ## Calls told in advance -/

/-- Whether no attempt follows number `n`, counted from one: it succeeds, the policy says stop, or
it is the last one allowed. -/
def Final (r : Retry ε) (results : Nat → Except ε α) (n : Nat) : Prop :=
  0 < n ∧ ((∃ a, results (n - 1) = .ok a) ∨
    (∃ e, results (n - 1) = .error e ∧ r.policy e (n - 1) = .stop) ∨
    n = r.config.maxAttempts)

/-- The wait after attempt number `k`, counted from zero, if it fails and another one follows: what
the policy asks for, and otherwise what the backoff says. -/
def waitAfter (r : Retry ε) (results : Nat → Except ε α) (k : Nat) : Duration :=
  match results k with
  | .ok _ => .zero
  | .error e =>
    match r.policy e k with
    | .retryAfter d => d
    | _ => r.config.backoff.strategy.delay k

/-- The nanoseconds waited after `count` attempts, from number `first` on. -/
def nanosAfter (r : Retry ε) (results : Nat → Except ε α) (first count : Nat) : Nat :=
  ((List.range' first count).map fun k => (waitAfter r results k).nanos).sum

/-- One thing that happens in a call. -/
inductive Happening where
  | attempt (k : Nat)
  | pause (d : Duration)
deriving DecidableEq

/-- An attempt with the wait that follows it; nothing happens in a wait of zero. -/
def round (r : Retry ε) (results : Nat → Except ε α) (k : Nat) : List Happening :=
  .attempt k :: if (waitAfter r results k).isZero then [] else [.pause (waitAfter r results k)]

/-- What happens in attempt number `first` and in `more` attempts after it. -/
def happenings (r : Retry ε) (results : Nat → Except ε α) (first more : Nat) : List Happening :=
  (List.range' first more).flatMap (round r results) ++ [.attempt (first + more)]

/-- Attempts with these results, each of which does to the surroundings what it likes. -/
def foretold (results : Nat → Except ε α) (touch : Nat → σ → σ) (k : Nat) : Act σ ε α :=
  fun s => (results k, touch k s)

/-- The surroundings after something happened. -/
def Happening.run (touch : Nat → σ → σ) (pause : Duration → σ → σ) (s : σ) : Happening → σ
  | attempt k => touch k s
  | Happening.pause d => pause d s

/-! ## The last attempt -/

theorem final_maxAttempts (hpos : 0 < r.config.maxAttempts) (results : Nat → Except ε α) :
    Final r results r.config.maxAttempts := ⟨hpos, .inr (.inr rfl)⟩

/-- Every call has a last attempt. -/
theorem exists_least_final (hpos : 0 < r.config.maxAttempts) (results : Nat → Except ε α) :
    ∃ n, IsLeast {n | Final r results n} n := by
  classical
  have h : ∃ n, Final r results n := ⟨_, final_maxAttempts hpos results⟩
  exact ⟨Nat.find h, Nat.find_spec h, fun m hm => Nat.find_min' h hm⟩

/-- The call is over after a final attempt. -/
theorem verdict_of_final {k : Nat} (h : Final r results (k + 1)) {e : ε}
    (he : results k = .error e) : r.verdict e (k + 1) = .giveUp := by
  obtain ⟨-, ⟨a, ha⟩ | ⟨e', he', hstop⟩ | hmax⟩ := h
  · rw [Nat.add_sub_cancel, he] at ha
    cases ha
  · rw [Nat.add_sub_cancel, he] at he'
    obtain rfl := Except.error.inj he'
    exact (r.verdict_eq_giveUp_iff e (k + 1)).mpr (.inl hstop)
  · exact verdict_of_last hmax.ge e

/-- After every other attempt that is allowed, there is a wait and another attempt. -/
theorem verdict_of_not_final (hj : r.config.backoff.jitter = .none) {k : Nat}
    (hk : k + 1 < r.config.maxAttempts) (h : ¬Final r results (k + 1)) :
    ∃ e, results k = .error e ∧ r.verdict e (k + 1) = .wait (waitAfter r results k) := by
  cases hresult : results k with
  | ok a => exact absurd ⟨Nat.succ_pos k, .inl ⟨a, hresult⟩⟩ h
  | error e =>
    have hmax : ¬r.config.maxAttempts ≤ k + 1 := Nat.not_le_of_lt hk
    refine ⟨e, rfl, ?_⟩
    simp only [verdict, waitAfter, hresult, Nat.add_sub_cancel]
    cases hp : r.policy e k with
    | stop => exact absurd ⟨Nat.succ_pos k, .inr (.inl ⟨e, hresult, hp⟩)⟩ h
    | retry => simp only [if_neg hmax, Backoff.delay_of_no_jitter hj]
    | retryAfter d => simp only [if_neg hmax]

/-! ## The recursion -/

theorem nanosAfter_succ (r : Retry ε) (results : Nat → Except ε α) (k m : Nat) :
    nanosAfter r results k (m + 1)
      = (waitAfter r results k).nanos + nanosAfter r results (k + 1) m := by
  simp [nanosAfter, List.range'_succ]

theorem happenings_succ (r : Retry ε) (results : Nat → Except ε α) (k m : Nat) :
    happenings r results k (m + 1) = round r results k ++ happenings r results (k + 1) m := by
  have hlast : k + (m + 1) = k + 1 + m := by omega
  simp [happenings, List.range'_succ, hlast]

theorem foldl_round (r : Retry ε) (results : Nat → Except ε α) (touch : Nat → σ → σ)
    (pause : Duration → σ → σ) (k : Nat) (s : σ) :
    (round r results k).foldl (Happening.run touch pause) s
      = if (waitAfter r results k).isZero then touch k s
        else pause (waitAfter r results k) (touch k s) := by
  unfold round
  split <;> rfl

/-- A sum of waits is cut off once. -/
theorem saturating_add (a b : Duration) (n : Nat) :
    Duration.saturating ((a + b).nanos + n) = .saturating (a.nanos + (b.nanos + n)) := by
  refine Duration.ext_nanos ?_
  simp only [Duration.saturating, Duration.nanos_add]
  omega

section Final

variable {n k m : Nat} (hn : IsLeast {n | Final r results n} n)
  (hpos : 0 < r.config.maxAttempts) (hj : r.config.backoff.jitter = .none)
  (touch : Nat → σ → σ) (pause : Duration → σ → σ)

include hn

theorem verdict_of_least (hk : k + 1 = n) {e : ε} (he : results k = .error e) :
    r.verdict e (k + 1) = .giveUp := by
  have hfinal : Final r results n := hn.1
  rw [← hk] at hfinal
  exact verdict_of_final hfinal he

include hpos hj

theorem verdict_of_lt (hk : k + 1 < n) :
    ∃ e, results k = .error e ∧ r.verdict e (k + 1) = .wait (waitAfter r results k) := by
  have hle : n ≤ r.config.maxAttempts := hn.2 (final_maxAttempts hpos results)
  exact verdict_of_not_final hj (hk.trans_le hle) fun h => absurd (hn.2 h) (Nat.not_le_of_lt hk)

/-- **From any attempt on, the call goes up to the first final one.** -/
theorem pursue_of_final (hm : k + m + 1 = n) (waited : Duration) (s : σ) :
    r.pursue (foretold results touch) pause (r.left k) k waited s
      = (⟨results (n - 1), n, .saturating (waited.nanos + nanosAfter r results k m)⟩,
          (happenings r results k m).foldl (Happening.run touch pause) s) := by
  induction m generalizing k waited s with
  | zero =>
    have hlast (e : ε) (he : results k = .error e) := verdict_of_least hn hm he
    have hwaited : Duration.saturating waited.nanos = waited :=
      Duration.ext_nanos (Nat.min_eq_right waited.le_max)
    subst hm
    rw [pursue_of_last rfl hlast]
    simp [nanosAfter, happenings, Happening.run, hwaited]
  | succ m ih =>
    obtain ⟨e, he, hv⟩ := verdict_of_lt hn hpos hj (k := k) (by omega)
    have hattempt : foretold results touch k s = (.error e, touch k s) := by
      rw [foretold, he]
    rw [pursue_of_wait hattempt hv, ih (by omega), saturating_add, nanosAfter_succ,
      happenings_succ, List.foldl_append, foldl_round]

end Final

/-! ## The loop -/

/-- A counter of 32 bits, one further. It stays at its highest value. -/
def tick (counter : Nat) : Nat := min (counter + 1) unbounded

theorem tick_of_lt {counter : Nat} (h : counter < unbounded) : tick counter = counter + 1 :=
  Nat.min_eq_left h

/-- A retried call as a loop without a bound: after `made` attempts and with this counter, it goes
through these values of the counter and comes to this ending. A sum of waits has to be a
duration. -/
inductive Loop (r : Retry ε) (work : Nat → Act σ ε α) (pause : Duration → σ → σ) :
    (made counter : Nat) → Duration → σ → List Nat → Ending ε α → σ → Prop
  | ok {made counter c : Nat} {waited : Duration} {s s' : σ} {a : α} (hc : tick counter = c)
      (h : work made s = (.ok a, s')) :
      Loop r work pause made counter waited s [c] ⟨.ok a, c, waited⟩ s'
  | giveUp {made counter c : Nat} {waited : Duration} {s s' : σ} {e : ε} (hc : tick counter = c)
      (h : work made s = (.error e, s')) (hv : r.verdict e c = .giveUp) :
      Loop r work pause made counter waited s [c] ⟨.error e, c, waited⟩ s'
  | wait {made counter c : Nat} {waited d : Duration} {s s' t : σ} {e : ε} {counts : List Nat}
      {ending : Ending ε α} (hc : tick counter = c) (h : work made s = (.error e, s'))
      (hv : r.verdict e c = .wait d) (hsum : waited.nanos + d.nanos ≤ maxNanos)
      (hrest : Loop r work pause (made + 1) c (waited + d) (if d.isZero then s' else pause d s')
        counts ending t) :
      Loop r work pause made counter waited s (c :: counts) ending t

/-- The loop comes to one ending only. -/
theorem Loop.unique {work : Nat → Act σ ε α} {pause : Duration → σ → σ} {made counter : Nat}
    {waited : Duration} {s t t' : σ} {counts counts' : List Nat} {ending ending' : Ending ε α}
    (h : Loop r work pause made counter waited s counts ending t)
    (h' : Loop r work pause made counter waited s counts' ending' t') :
    counts' = counts ∧ ending' = ending ∧ t' = t := by
  induction h generalizing counts' ending' t' with
  | ok hc hw =>
    subst hc
    cases h' with
    | ok hc' hw' =>
      subst hc'
      cases hw.symm.trans hw'
      exact ⟨rfl, rfl, rfl⟩
    | giveUp hc' hw' => cases hw.symm.trans hw'
    | wait hc' hw' => cases hw.symm.trans hw'
  | giveUp hc hw hv =>
    subst hc
    cases h' with
    | ok hc' hw' => cases hw.symm.trans hw'
    | giveUp hc' hw' =>
      subst hc'
      cases hw.symm.trans hw'
      exact ⟨rfl, rfl, rfl⟩
    | wait hc' hw' hv' =>
      subst hc'
      cases hw.symm.trans hw'
      cases hv.symm.trans hv'
  | wait hc hw hv hsum hrest ih =>
    subst hc
    cases h' with
    | ok hc' hw' => cases hw.symm.trans hw'
    | giveUp hc' hw' hv' =>
      subst hc'
      cases hw.symm.trans hw'
      cases hv.symm.trans hv'
    | wait hc' hw' hv' hsum' hrest' =>
      subst hc'
      cases hw.symm.trans hw'
      cases hv.symm.trans hv'
      obtain ⟨rfl, hending, ht⟩ := ih hrest'
      exact ⟨rfl, hending, ht⟩

/-- **The loop goes up to the first final attempt**, too, and its counter is the number of attempts
as long as it lasts. -/
theorem loop_of_final {n k m : Nat} (hn : IsLeast {n | Final r results n} n)
    (hpos : 0 < r.config.maxAttempts) (hu : r.config.maxAttempts ≤ unbounded)
    (hj : r.config.backoff.jitter = .none) (touch : Nat → σ → σ) (pause : Duration → σ → σ)
    (hm : k + m + 1 = n) {waited : Duration}
    (hsum : waited.nanos + nanosAfter r results k m ≤ maxNanos) (s : σ) :
    let called := r.pursue (foretold results touch) pause (r.left k) k waited s
    Loop r (foretold results touch) pause k k waited s (List.range' (k + 1) (m + 1)) called.1
      called.2 := by
  have hle : n ≤ r.config.maxAttempts := hn.2 (final_maxAttempts hpos results)
  induction m generalizing k waited s with
  | zero =>
    have htick : tick k = k + 1 := tick_of_lt (by omega)
    have hlast (e : ε) (he : results k = .error e) := verdict_of_least hn hm he
    have hattempt : foretold results touch k s = (results k, touch k s) := rfl
    rw [pursue_of_last hattempt hlast]
    cases hresult : results k with
    | ok a => exact .ok htick (by rw [foretold, hresult])
    | error e => exact .giveUp htick (by rw [foretold, hresult]) (hlast e hresult)
  | succ m ih =>
    have htick : tick k = k + 1 := tick_of_lt (by omega)
    obtain ⟨e, he, hv⟩ := verdict_of_lt hn hpos hj (k := k) (by omega)
    have hattempt : foretold results touch k s = (.error e, touch k s) := by
      rw [foretold, he]
    rw [nanosAfter_succ] at hsum
    have hnext : (waited + waitAfter r results k).nanos + nanosAfter r results (k + 1) m
        ≤ maxNanos := by
      rw [Duration.nanos_add]
      omega
    rw [pursue_of_wait hattempt hv, List.range'_succ]
    exact .wait htick hattempt hv (by omega) (ih (by omega) hnext _)

/-- What is true of a call that ends with attempt number `n`. -/
structure EndsAt (r : Retry ε) (results : Nat → Except ε α) (touch : Nat → σ → σ)
    (pause : Duration → σ → σ) (s : σ) (n : Nat) (called : Ending ε α × Retry ε × σ) : Prop where
  result : called.1.result = results (n - 1)
  attempts : called.1.attempts = n
  /-- The surroundings go through `n` attempts and the waits between them. -/
  world : called.2.2 = (happenings r results 0 (n - 1)).foldl (Happening.run touch pause) s
  /-- Of the retry, only the counters change. -/
  retry : called.2.1 = { r with tally := called.2.1.tally }
  /-- One counter moves: one of the first two exactly if the call succeeded, and one of those in
  even places exactly if it took one attempt. -/
  counted : ∃ i < 4, called.2.1.tally.counters = r.tally.counters.modify i (· + 1) ∧
    (i < 2 ↔ ∃ a, results (n - 1) = .ok a) ∧ (i % 2 = 0 ↔ n = 1)
  waited : nanosAfter r results 0 (n - 1) ≤ maxNanos →
    called.1.waited.nanos = nanosAfter r results 0 (n - 1)
  /-- The loop with its counter of 32 bits counts from one to `n`, and comes to the same. -/
  loop : nanosAfter r results 0 (n - 1) ≤ maxNanos → ∀ counts ending t,
    Loop r (foretold results touch) pause 0 0 .zero s counts ending t ↔
      counts = List.range' 1 n ∧ ending = called.1 ∧ t = called.2.2

theorem place_spec (succeeded : Bool) {n : Nat} (hn : 0 < n) :
    Tally.place succeeded n < 4 ∧ (Tally.place succeeded n < 2 ↔ succeeded = true) ∧
      (Tally.place succeeded n % 2 = 0 ↔ n = 1) := by
  by_cases h : 1 < n <;> cases succeeded <;> simp [Tally.place, h] <;> omega

theorem succeeded_iff {result : Except ε α} : succeeded result = true ↔ ∃ a, result = .ok a := by
  cases result <;> simp [succeeded]

/-- **A retried call, told in advance.** Whatever the attempts of a valid retry without jitter come
to, the call ends, and it does so with the first final attempt. -/
theorem retry_loop_is_characterized (hr : r.config.validate = .ok ())
    (hu : r.config.maxAttempts ≤ unbounded) (hj : r.config.backoff.jitter = .none)
    (results : Nat → Except ε α) (touch : Nat → σ → σ) (pause : Duration → σ → σ) (s : σ) :
    ∃ n, IsLeast {n | Final r results n} n ∧
      EndsAt r results touch pause s n (r.run (foretold results touch) pause s) := by
  have hpos : 0 < r.config.maxAttempts := (r.config.validate_ok_iff.mp hr).1
  obtain ⟨n, hn⟩ := exists_least_final hpos results
  have hfirst : 0 + (n - 1) + 1 = n := by
    have hfinal : 0 < n := hn.1.1
    omega
  have hcalled := pursue_of_final hn hpos hj touch pause hfirst .zero s
  have hnone : Duration.zero.nanos + nanosAfter r results 0 (n - 1)
      = nanosAfter r results 0 (n - 1) := Nat.zero_add _
  rw [hnone] at hcalled
  have hrun : r.run (foretold results touch) pause s
      = (⟨results (n - 1), n, .saturating (nanosAfter r results 0 (n - 1))⟩,
          r.count (succeeded (results (n - 1))) n,
          (happenings r results 0 (n - 1)).foldl (Happening.run touch pause) s) := by
    simp only [run, hcalled]
  refine ⟨n, hn, ?_⟩
  rw [hrun]
  exact {
    result := rfl
    attempts := rfl
    world := rfl
    retry := rfl
    counted := by
      obtain ⟨hlt, hok, hone⟩ := place_spec (succeeded (results (n - 1))) hn.1.1
      exact ⟨_, hlt, Tally.counters_count_eq .., hok.trans succeeded_iff, hone⟩
    waited := fun hsum => Nat.min_eq_right hsum
    loop := fun hsum counts ending t => by
      have hloop := loop_of_final hn hpos hu hj touch pause hfirst (hnone.trans_le hsum) s
      have hcounts : n - 1 + 1 = n := by omega
      rw [hcalled, hcounts] at hloop
      constructor
      · exact hloop.unique
      · rintro ⟨rfl, rfl, rfl⟩
        exact hloop }

/-- A retry with the usual configuration, whose policy asks for a wait of its own after the first
attempt only. -/
def hasty : Retry String :=
  ⟨"hasty", {}, fun _ n => if n = 0 then .retryAfter (.ofMillis 7) else .retry,
    fun _ => .zero false, {}⟩

/-- Two attempts fail, the next one succeeds. -/
def thirdTime (k : Nat) : Except String Nat := if k < 2 then .error "busy" else .ok 5

theorem least_final_thirdTime : IsLeast {n | Final hasty thirdTime n} 3 := by
  refine ⟨⟨by decide, .inl ⟨5, rfl⟩⟩, fun m hm => ?_⟩
  obtain ⟨hpos, hfinal⟩ := hm
  by_contra hlt
  have hm : m = 1 ∨ m = 2 := by omega
  rcases hm with rfl | rfl
  all_goals
    rcases hfinal with ⟨a, hok⟩ | ⟨e, -, hstop⟩ | hmax
    · cases hok
    · cases hstop
    · cases hmax

/-- The third attempt succeeds after a wait of seven and one of fifty milliseconds. -/
theorem retry_loop_of_hasty :
    let called := hasty.run (foretold thirdTime fun k world => world ++ [Happening.attempt k])
      (fun d world => world ++ [.pause d]) []
    hasty.config.validate = .ok () ∧ hasty.config.maxAttempts ≤ unbounded ∧
      hasty.config.backoff.jitter = .none ∧
      called.1.result = .ok 5 ∧ called.1.attempts = 3 ∧ called.1.waited = .ofMillis 57 ∧
      called.2.2 = [.attempt 0, .pause (.ofMillis 7), .attempt 1, .pause (.ofMillis 50),
        .attempt 2] := by
  intro called
  have hr : hasty.config.validate = .ok () := rfl
  have hu : hasty.config.maxAttempts ≤ unbounded := by decide
  obtain ⟨n, hn, hends⟩ := retry_loop_is_characterized hr hu rfl thirdTime
    (fun k world => world ++ [Happening.attempt k]) (fun d world => world ++ [.pause d]) []
  obtain rfl : n = 3 := hn.unique least_final_thirdTime
  have hwaited := hends.waited (by decide)
  refine ⟨hr, hu, rfl, hends.result, hends.attempts, Duration.ext_nanos hwaited, ?_⟩
  exact hends.world.trans (by decide)

end ClusterGuard.Retry
