import ClusterGuard.Proofs.Retry.Exponential
import ClusterGuard.Proofs.Retry.Loop

/-!
# Exponential waits that begin with nothing

If the initial wait is zero, an exponential wait is a power of the multiplier times zero. That is no
wait, as long as the power is a finite number. Zero times infinity, however, is not a number, and
what is not a number is capped: from the first retry whose power is infinite, every wait is as long
as the cap.

Results:
* `run_of_pauseless`: calls whose waits take no time wait for nothing, whatever a pause would do.
* `waited_of_failing`: calls that fail through wait as long as the waits say.
* **`zero_initial_is_characterized`**: which waits are zero, and what that makes of calls.
-/

namespace ClusterGuard

open Format (double)

namespace Duration

theorem code_zero : zero.code = 0 := by decide +kernel

end Duration

namespace Strategy

variable {c : Nat} {cap : Duration}

/-- Whether the power of the multiplier at a retry is a finite number. -/
def inRange (multiplier : Binary .double) (retry : Nat) : Bool :=
  (multiplier.pow (min retry maxExponent)).isFinite

theorem inRange_iff (hc : c ≤ double.top) (retry : Nat) :
    inRange (.signed false c hc) retry = true
      ↔ double.power c (min retry maxExponent) < double.top := by
  rw [inRange, pow_multiplier hc]
  simp [Binary.isFinite]

/-- Powers that have left the range do not come back. -/
theorem inRange_of_le {i j : Nat} (hc : c ≤ double.top) (hij : i ≤ j)
    (h : inRange (.signed false c hc) j = true) : inRange (.signed false c hc) i = true := by
  rw [inRange_iff] at h ⊢
  rcases Nat.le_total (double.ofWhole 1) c with hone | hone
  · have hmono : double.power c (min i maxExponent) ≤ double.power c (min j maxExponent) :=
      Format.power_mono Duration.ofWhole_one_lt_top hc hone (min_le_min_right _ hij)
    exact hmono.trans_lt h
  · exact (Format.power_le_one Duration.ofWhole_one_lt_top hone _).trans_lt
      Duration.ofWhole_one_lt_top

/-- Zero times a power. -/
theorem rawCode_zero (hc : c ≤ double.top) (retry : Nat) :
    rawCode .zero c retry = if inRange (.signed false c hc) retry then 0 else double.top := by
  rw [rawCode, Duration.code_zero]
  split
  next h => exact Format.zero_product ((inRange_iff hc retry).mp h)
  next h =>
    have htop : double.power c (min retry maxExponent) = double.top := by
      rw [inRange_iff, not_lt] at h
      exact le_antisymm (Format.power_le_top Duration.ofWhole_one_lt_top ..) h
    rw [htop, Format.product_top]

theorem delay?_zero (hc : c ≤ double.top) (retry : Nat) :
    (exponential .zero (.signed false c hc) cap).delay? retry
      = some (if inRange (.signed false c hc) retry then .zero else cap) := by
  rw [delay?_exponential, rawCode_zero hc]
  split
  · rw [cap.clip_zero]
  · rw [Duration.clip_of_le (Nat.le_of_lt cap.code_lt_top)]

end Strategy

namespace Backoff

/-- Jitter leaves a wait of zero alone. -/
theorem delay_of_zero {b : Backoff} {retry : Nat} (h : b.strategy.delay? retry = some .zero)
    (factor : Binary .double) : b.delay factor retry = .zero := by
  unfold delay delay?
  rw [h]
  cases b.jitter <;> rfl

end Backoff

namespace Retry

variable {σ ε α : Type} {r : Retry ε}

/-- None of the waits of a retry takes any time. -/
def Pauseless (r : Retry ε) : Prop := ∀ e n d, r.verdict e (n + 1) = .wait d → d.isZero = true

theorem pauseless_of_delays (hp : ∀ e n d, r.policy e n = .retryAfter d → d.isZero = true)
    (hd : ∀ n, n + 1 < r.config.maxAttempts →
      r.config.backoff.strategy.delay? n = some .zero) : r.Pauseless := by
  intro e n d h
  have hlt := lt_of_wait h
  have hleft : ¬r.config.maxAttempts ≤ n + 1 := Nat.not_le_of_lt hlt
  unfold verdict at h
  rw [Nat.add_sub_cancel] at h
  cases hpolicy : r.policy e n with
  | stop =>
    rw [hpolicy] at h
    cases h
  | retry =>
    simp only [hpolicy, if_neg hleft, Backoff.delay_of_zero (hd n hlt)] at h
    cases h
    rfl
  | retryAfter wait =>
    simp only [hpolicy, if_neg hleft] at h
    cases h
    exact hp e n d hpolicy

theorem pursue_of_pauseless (h : r.Pauseless) (work : Nat → Act σ ε α) (pause : Duration → σ → σ)
    (left made : Nat) (waited : Duration) (s : σ) :
    (r.pursue work pause left made waited s).1.waited = waited ∧
      r.pursue work pause left made waited s
        = r.pursue work (fun _ s => s) left made waited s := by
  induction left generalizing made s with
  | zero => exact ⟨rfl, rfl⟩
  | succ left ih =>
    unfold pursue
    cases hresult : work made s with
    | mk result s' =>
      cases result with
      | ok a => exact ⟨rfl, rfl⟩
      | error e =>
        cases hv : r.verdict e (made + 1) with
        | giveUp => simp only [hv, and_self]
        | wait d =>
          have hzero := h e made d hv
          simp only [hv, hzero, if_true, add_of_isZero hzero]
          exact ih (made + 1) s'

/-- **Calls without waits** wait for nothing, and what a pause would do does not matter. -/
theorem run_of_pauseless (h : r.Pauseless) (work : Nat → Act σ ε α)
    (pause : Duration → σ → σ) (s : σ) :
    (r.run work pause s).1.waited = .zero ∧
      r.run work pause s = r.run work (fun _ s => s) s := by
  obtain ⟨hwaited, hsame⟩ := pursue_of_pauseless h work pause (r.left 0) 0 .zero s
  refine ⟨hwaited, ?_⟩
  unfold run
  rw [hsame]

/-- Failures that are all worth a retry go on to the last attempt allowed. -/
theorem least_final_of_failing (hpos : 0 < r.config.maxAttempts) (hp : r.policy = .always) (e : ε) :
    IsLeast {n | Final r (fun _ => (.error e : Except ε α)) n} r.config.maxAttempts := by
  refine ⟨final_maxAttempts hpos fun _ => .error e, fun n hn => ?_⟩
  obtain ⟨-, ⟨a, hok⟩ | ⟨e', -, hstop⟩ | hmax⟩ := hn
  · cases hok
  · rw [hp] at hstop
    cases hstop
  · exact hmax.ge

/-- **Calls that fail through** wait as long as the waits say. -/
theorem waited_of_failing (hpos : 0 < r.config.maxAttempts)
    (hj : r.config.backoff.jitter = .none) (hp : r.policy = .always) (e : ε)
    (touch : Nat → σ → σ) (pause : Duration → σ → σ) (s : σ) :
    (r.run (foretold (fun _ => (.error e : Except ε α)) touch) pause s).1.waited
      = .saturating (((List.range (r.config.maxAttempts - 1)).map fun n =>
          (r.config.backoff.strategy.delay n).nanos).sum) := by
  have hcalled := pursue_of_final (least_final_of_failing (α := α) hpos hp e) hpos hj touch pause
    (k := 0) (m := r.config.maxAttempts - 1) (by omega) .zero s
  have hwait (n : Nat) : waitAfter r (fun _ => (.error e : Except ε α)) n
      = r.config.backoff.strategy.delay n := by
    simp only [waitAfter, hp, Policy.always]
  have hnone : Duration.zero.nanos = 0 := rfl
  simp only [nanosAfter, hwait, ← List.range_eq_range', hnone, Nat.zero_add] at hcalled
  unfold run
  rw [hcalled]

/-- One wait before the last attempt allowed is enough. -/
theorem waited_ne_zero_of_failing (hj : r.config.backoff.jitter = .none) (hp : r.policy = .always)
    {n : Nat} (hn : n + 1 < r.config.maxAttempts)
    (hd : 0 < (r.config.backoff.strategy.delay n).nanos) (e : ε)
    (touch : Nat → σ → σ) (pause : Duration → σ → σ) (s : σ) :
    (r.run (foretold (fun _ => (.error e : Except ε α)) touch) pause s).1.waited ≠ .zero := by
  have hmem : n ∈ List.range (r.config.maxAttempts - 1) := List.mem_range.mpr (by omega)
  have hsum : 0 < ((List.range (r.config.maxAttempts - 1)).map fun n =>
      (r.config.backoff.strategy.delay n).nanos).sum :=
    List.sum_pos_iff_exists_pos_nat.mpr ⟨_, List.mem_map_of_mem hmem, hd⟩
  have hmax : 0 < maxNanos := by decide
  rw [waited_of_failing (Nat.zero_lt_of_lt hn) hj hp]
  exact fun hzero => Nat.ne_of_gt (Nat.lt_min.mpr ⟨hmax, hsum⟩) (congrArg Duration.nanos hzero)

/-! ## Zero at first -/

theorem sum_map_ite (p : Nat → Bool) (n : Nat) (l : List Nat) :
    (l.map fun k => if p k then 0 else n).sum = l.countP (!p ·) * n := by
  induction l with
  | nil => simp
  | cons k l ih =>
    cases hp : p k with
    | false => simp [hp, ih, Nat.add_mul, Nat.add_comm]
    | true => simp [hp, ih]

/-- What is true of a retry whose exponential waits begin with nothing. -/
structure ZeroAtFirst (r : Retry ε) (multiplier : Binary .double) (cap : Duration) : Prop where
  /-- A wait is zero while the power of the multiplier is in range, and the cap from then on. -/
  delay : ∀ n, r.config.backoff.strategy.delay? n
    = some (if Strategy.inRange multiplier n then .zero else cap)
  /-- The range is left once. -/
  once : ∀ m n, m ≤ n → Strategy.inRange multiplier n = true → Strategy.inRange multiplier m = true
  /-- It is not left at all if the multiplier is not above one. -/
  never : multiplier.le (Binary.ofNat _ 1) = true → ∀ n, Strategy.inRange multiplier n = true
  /-- A call does not wait if the last of its retries is in range or the cap is zero, and the policy
  does not ask for waits of its own. -/
  pauseless : (Strategy.inRange multiplier (r.config.maxAttempts - 2) = true ∨ cap = .zero) →
    (∀ e n d, r.policy e n = .retryAfter d → d.isZero = true) →
    ∀ {σ α : Type} (work : Nat → Act σ ε α) (pause : Duration → σ → σ) (s : σ),
      (r.run work pause s).1.waited = .zero ∧
        r.run work pause s = r.run work (fun _ s => s) s
  /-- A call that fails through waits for the cap at every retry that is out of range. -/
  failing : r.config.backoff.jitter = .none → r.policy = .always →
    ∀ {σ α : Type} (e : ε) (touch : Nat → σ → σ) (pause : Duration → σ → σ) (s : σ),
      (r.run (foretold (fun _ => (.error e : Except ε α)) touch) pause s).1.waited
        = .saturating ((List.range (r.config.maxAttempts - 1)).countP
            (!Strategy.inRange multiplier ·) * cap.nanos)

/-- **Waits that begin with nothing** are zero for as long as the power of the multiplier is a
finite number, and no longer. -/
theorem zero_initial_is_characterized {multiplier : Binary .double} {cap : Duration}
    (hv : r.config.validate = .ok ())
    (hs : r.config.backoff.strategy = .exponential .zero multiplier cap) :
    r.ZeroAtFirst multiplier cap := by
  obtain ⟨c, hc, rfl⟩ := Strategy.exists_multiplier hv hs
  have hpos : 0 < r.config.maxAttempts := (r.config.validate_ok_iff.mp hv).1
  have hdelay (n : Nat) : r.config.backoff.strategy.delay? n
      = some (if Strategy.inRange (.signed false c hc) n then .zero else cap) := by
    rw [hs, Strategy.delay?_zero]
  exact {
    delay := hdelay
    once := fun m n hmn h => Strategy.inRange_of_le hc hmn h
    never := fun h n => by
      have hone := (Binary.signed_le_ofNat hc).mp h
      exact (Strategy.inRange_iff hc n).mpr
        ((Format.power_le_one Duration.ofWhole_one_lt_top hone _).trans_lt
          Duration.ofWhole_one_lt_top)
    pauseless := fun hlast hp => by
      refine run_of_pauseless (pauseless_of_delays hp fun n hn => ?_)
      rw [hdelay]
      rcases hlast with hlast | rfl
      · have hn : n ≤ r.config.maxAttempts - 2 := by omega
        rw [if_pos (Strategy.inRange_of_le hc hn hlast)]
      · rw [ite_self]
    failing := fun hj hp _ _ e touch pause s => by
      have hnanos (n : Nat) : (r.config.backoff.strategy.delay n).nanos
          = if Strategy.inRange (.signed false c hc) n then 0 else cap.nanos := by
        rw [Strategy.delay, hdelay, Option.getD_some]
        split <;> rfl
      rw [waited_of_failing hpos hj hp]
      simp only [hnanos, sum_map_ite] }

/-- A retry without a bound whose waits begin with nothing and double. -/
def brisk : Retry String :=
  ⟨"brisk", ⟨unbounded, .exponential .zero (.ofNat _ 2) (.ofSeconds 30), .none⟩, .always,
    fun _ => .zero false, {}⟩

/-- The power is infinite at retry 1024. -/
theorem zero_at_first_of_brisk :
    brisk.config.validate = .ok () ∧
      brisk.config.backoff.strategy = .exponential .zero (.ofNat _ 2) (.ofSeconds 30) ∧
      brisk.config.backoff.strategy.delay? 1023 = some .zero ∧
      brisk.config.backoff.strategy.delay? 1024 = some (.ofSeconds 30) := by
  have hv : brisk.config.validate = .ok () := by decide +kernel
  have hdelay := (zero_initial_is_characterized hv rfl).delay
  have hin : Strategy.inRange (.ofNat _ 2) 1023 = true := by decide +kernel
  have hout : ¬Strategy.inRange (.ofNat _ 2) 1024 = true := by decide +kernel
  refine ⟨hv, rfl, ?_, ?_⟩
  · rw [hdelay, if_pos hin]
  · rw [hdelay, if_neg hout]

/-- **Waits that begin with nothing can come to something**, and so can what a call waits. -/
theorem brisk_waits :
    brisk.config.validate = .ok () ∧
      brisk.config.backoff.strategy = .exponential .zero (.ofNat _ 2) (.ofSeconds 30) ∧
      brisk.config.backoff.strategy.delay? 1024 ≠ some .zero ∧
      (brisk.run (foretold (fun _ => (.error "down" : Except String Unit)) fun _ s => s)
        (fun _ s => s) ()).1.waited ≠ .zero := by
  have hpos : 0 < (brisk.config.backoff.strategy.delay 1024).nanos := by decide +kernel
  refine ⟨by decide +kernel, rfl, by decide +kernel, ?_⟩
  exact waited_ne_zero_of_failing rfl rfl (by decide) hpos "down" (fun _ s => s) (fun _ s => s) ()

end Retry

end ClusterGuard
