import ClusterGuard.Proofs.Number.Power
import ClusterGuard.Proofs.Time.Seconds
import ClusterGuard.Retry.Config

/-!
# Exponential waits

An exponential wait is a product of rounded powers, compared with a cap that is rounded as well, and
rounded once more to nanoseconds. On codes it is one formula, `delay?_exponential`: the code of the
product, clipped at the cap. Both of its parts keep the order.

Results:
* `delay?_exponential`: the formula.
* **`exponential_waits_are_capped`**: there is always a wait, and it is not longer than the cap.
* **`exponential_waits_are_monotone`**: waits grow with the retry, or they fall.
-/

namespace ClusterGuard

open Format (double)

namespace Strategy

variable {config : Retry.Config} {initial cap : Duration} {multiplier : Binary .double}
  {c retry : Nat}

/-- The code of the seconds of an exponential wait before the cap. Here zero times infinity is
infinite, which is above every cap. -/
def rawCode (initial : Duration) (c retry : Nat) : Nat :=
  double.product initial.code (double.power c (min retry maxExponent))

theorem rawCode_le_top (initial : Duration) (c retry : Nat) :
    rawCode initial c retry ≤ double.top :=
  double.product_le_top ..

theorem pow_multiplier (hc : c ≤ double.top) (n : Nat) :
    (Binary.signed false c hc).pow n
      = .signed false (double.power c n) (Format.power_le_top Duration.ofWhole_one_lt_top c n) :=
  Binary.pow_signed Duration.ofWhole_one_lt_top hc n

/-- The seconds of an exponential wait, unless they are zero times infinity. -/
theorem rawSeconds_eq (hc : c ≤ double.top)
    (h : ¬(initial.code = 0 ∧ double.power c (min retry maxExponent) = double.top)) :
    rawSeconds initial (.signed false c hc) retry
      = .signed false (rawCode initial c retry) (rawCode_le_top ..) := by
  unfold rawSeconds
  rw [pow_multiplier hc, initial.toSeconds_eq]
  refine Binary.mul_eq_product _ _ ?_
  rintro (⟨htop, -⟩ | hnone)
  · exact absurd htop (Nat.ne_of_lt initial.code_lt_top)
  · exact h hnone

/-- Nothing times infinity is not a number. -/
theorem rawSeconds_eq_nan (hc : c ≤ double.top)
    (h : initial.code = 0 ∧ double.power c (min retry maxExponent) = double.top) :
    rawSeconds initial (.signed false c hc) retry = .nan := by
  unfold rawSeconds
  rw [pow_multiplier hc, initial.toSeconds_eq]
  unfold Binary.mul
  simp only [h, and_self, or_true, if_true]

/-- Whether the seconds of an exponential wait are turned into a duration: they are finite, and
below those of the cap. -/
def Converted (initial : Duration) (multiplier : Binary .double) (cap : Duration) (retry : Nat) :
    Prop :=
  (rawSeconds initial multiplier retry).isFinite = true ∧
    cap.toSeconds.le (rawSeconds initial multiplier retry) = false

instance (initial : Duration) (multiplier : Binary .double) (cap : Duration) (retry : Nat) :
    Decidable (Converted initial multiplier cap retry) :=
  inferInstanceAs (Decidable (_ ∧ _))

theorem delay?_of_converted (h : Converted initial multiplier cap retry) :
    (exponential initial multiplier cap).delay? retry
      = if (rawSeconds initial multiplier retry).lt (.zero false) then some .zero
        else Duration.ofSeconds? (rawSeconds initial multiplier retry) := by
  simp [delay?, h.1, h.2]

theorem delay?_of_not_converted (h : ¬Converted initial multiplier cap retry) :
    (exponential initial multiplier cap).delay? retry = some cap := by
  have hcapped : (!(rawSeconds initial multiplier retry).isFinite
      || cap.toSeconds.le (rawSeconds initial multiplier retry)) = true := by
    rw [Converted, not_and_or] at h
    simpa using h
  unfold delay?
  simp only [hcapped, if_true]

/-- Finite seconds are a number that is not negative, and the code says which. -/
theorem converted_iff (hc : c ≤ double.top) :
    Converted initial (.signed false c hc) cap retry ↔ rawCode initial c retry < cap.code := by
  have hcap := cap.code_lt_top
  unfold Converted
  by_cases hnan : initial.code = 0 ∧ double.power c (min retry maxExponent) = double.top
  · have htop : rawCode initial c retry = double.top := by
      rw [rawCode, hnan.2, Format.product_top]
    rw [rawSeconds_eq_nan hc hnan, htop]
    simp only [Binary.isFinite, Bool.false_eq_true, false_and, false_iff]
    omega
  · rw [rawSeconds_eq hc hnan, cap.toSeconds_eq, ← Bool.not_eq_true, Binary.le_signed]
    simp only [Binary.isFinite, decide_eq_true_eq]
    omega

theorem rawSeconds_of_converted {hc : c ≤ double.top}
    (h : Converted initial (.signed false c hc) cap retry) :
    rawSeconds initial (.signed false c hc) retry
      = .signed false (rawCode initial c retry) (rawCode_le_top ..) := by
  refine rawSeconds_eq hc fun hnan => ?_
  obtain ⟨hfinite, -⟩ := h
  rw [rawSeconds_eq_nan hc hnan] at hfinite
  cases hfinite

/-- **An exponential wait is its code, clipped at the cap.** -/
theorem delay?_exponential (hc : c ≤ double.top) (retry : Nat) :
    (exponential initial (.signed false c hc) cap).delay? retry
      = some (cap.clip (rawCode initial c retry)) := by
  by_cases h : Converted initial (.signed false c hc) cap retry
  · have hpos : ¬(Binary.signed false (rawCode initial c retry) (rawCode_le_top ..)).lt
        (.zero false) = true := by
      rw [Binary.zero, Binary.lt_signed]
      exact Nat.not_lt_zero _
    rw [delay?_of_converted h, rawSeconds_of_converted h, if_neg hpos]
    exact Duration.ofSeconds?_of_lt ((converted_iff hc).mp h) _
  · rw [delay?_of_not_converted h, Duration.clip_of_le]
    exact Nat.le_of_not_lt fun hlt => h ((converted_iff hc).mpr hlt)

/-- Whatever the multiplier is, there is a wait that is not longer than the cap. -/
theorem delay?_le_cap (s : Strategy) (retry : Nat) :
    ∃ d, s.delay? retry = some d ∧ d ≤ s.cap := by
  cases s with
  | fixed d => exact ⟨d, rfl, Nat.le_refl _⟩
  | exponential initial multiplier cap =>
    by_cases h : Converted initial multiplier cap retry
    · rw [delay?_of_converted h]
      split
      next => exact ⟨.zero, rfl, Nat.zero_le _⟩
      next hpos =>
        obtain ⟨hfinite, hbelow⟩ := h
        cases hraw : rawSeconds initial multiplier retry with
        | nan =>
          rw [hraw] at hfinite
          cases hfinite
        | signed negative c hc =>
          rw [hraw] at hpos hbelow
          cases negative with
          | false =>
            rw [cap.toSeconds_eq, ← Bool.not_eq_true, Binary.le_signed, not_le] at hbelow
            exact ⟨_, Duration.ofSeconds?_of_lt hbelow hc, cap.clip_le c⟩
          | true =>
            have hzero : c = 0 := by
              simp [Binary.lt, Binary.zero, Binary.place?] at hpos
              omega
            subst hzero
            exact ⟨.zero, Duration.ofSeconds?_zero true, Nat.zero_le _⟩
    · exact ⟨cap, delay?_of_not_converted h, Nat.le_refl _⟩

/-! ## Accepted configurations -/

/-- The multiplier of an accepted configuration is not negative. -/
theorem exists_multiplier (hv : config.validate = .ok ())
    (hs : config.backoff.strategy = .exponential initial multiplier cap) :
    ∃ c hc, multiplier = .signed false c hc := by
  obtain ⟨-, hsound⟩ := config.validate_ok_iff.mp hv
  rw [hs] at hsound
  unfold Retry.Config.soundStrategy Retry.Config.isMultiplier at hsound
  cases multiplier with
  | nan => cases hsound
  | signed negative c hc =>
    cases negative with
    | false => exact ⟨c, hc, rfl⟩
    | true =>
      have hpos := (Bool.and_eq_true_iff.mp hsound).2
      simp [Binary.lt, Binary.zero, Binary.place?] at hpos
      omega

/-- **Exponential waits are capped.** For every retry there is a wait, and it is not longer than the
cap. If its seconds are turned into a duration, they are a number, not negative, and the nearest
duration is the wait. Otherwise the wait is the cap. -/
theorem exponential_waits_are_capped (hv : config.validate = .ok ())
    (hs : config.backoff.strategy = .exponential initial multiplier cap) (retry : Nat) :
    ∃ d, config.backoff.strategy.delay? retry = some d ∧ d ≤ cap ∧
      (Converted initial multiplier cap retry →
        (Binary.zero false).le (rawSeconds initial multiplier retry) = true ∧
          Duration.ofSeconds? (rawSeconds initial multiplier retry) = some d) ∧
      (¬Converted initial multiplier cap retry → d = cap) := by
  obtain ⟨c, hc, rfl⟩ := exists_multiplier hv hs
  rw [hs]
  refine ⟨_, delay?_exponential hc retry, cap.clip_le _, fun h => ?_, fun h => ?_⟩
  · rw [rawSeconds_of_converted h]
    exact ⟨(Binary.le_signed ..).mpr (Nat.zero_le _),
      Duration.ofSeconds?_of_lt ((converted_iff hc).mp h) _⟩
  · exact Duration.clip_of_le (Nat.le_of_not_lt fun hlt => h ((converted_iff hc).mpr hlt))

/-- Waits just below a cap that is halfway between two numbers of seconds, and is rounded up. -/
def roundedUp : Retry.Config :=
  ⟨Retry.unbounded,
    .exponential (.ofSeconds (2 ^ 53 + 2)) (.ofNat _ 1) (.ofSeconds (2 ^ 53 + 3)), .none⟩

/-- The cap is converted to more than it is, and the wait is still not above it. -/
theorem capped_of_roundedUp :
    let wait : Duration := .ofSeconds (2 ^ 53 + 2)
    let cap : Duration := .ofSeconds (2 ^ 53 + 3)
    roundedUp.validate = .ok () ∧
      roundedUp.backoff.strategy = .exponential wait (.ofNat _ 1) cap ∧
      cap.toSeconds = .ofNat _ (2 ^ 53 + 4) ∧
      ∃ d, roundedUp.backoff.strategy.delay? 7 = some d ∧ d ≤ cap ∧
        Duration.ofSeconds? (rawSeconds wait (.ofNat _ 1) 7) = some d := by
  intro wait cap
  have hv : roundedUp.validate = .ok () := by decide +kernel
  have hs : roundedUp.backoff.strategy = .exponential wait (.ofNat _ 1) cap := rfl
  obtain ⟨d, hdelay, hle, hconverted, -⟩ := exponential_waits_are_capped hv hs 7
  exact ⟨hv, hs, by decide +kernel, d, hdelay, hle, (hconverted (by decide +kernel)).2⟩

/-- **Exponential waits are in order.** With a multiplier that is not below one, no wait is longer
than a later one, and with a multiplier that is not above one, none is shorter. -/
theorem exponential_waits_are_monotone (hv : config.validate = .ok ())
    (hs : config.backoff.strategy = .exponential initial multiplier cap)
    {i j : Nat} (hij : i ≤ j) :
    ∃ d e, config.backoff.strategy.delay? i = some d ∧
      config.backoff.strategy.delay? j = some e ∧
      ((Binary.ofNat _ 1).le multiplier = true → d ≤ e) ∧
      (multiplier.le (Binary.ofNat _ 1) = true → e ≤ d) := by
  obtain ⟨c, hc, rfl⟩ := exists_multiplier hv hs
  have hexponent : min i maxExponent ≤ min j maxExponent := min_le_min_right _ hij
  rw [hs]
  refine ⟨_, _, delay?_exponential hc i, delay?_exponential hc j, fun h => ?_, fun h => ?_⟩
  · have hone := (Binary.ofNat_le_signed hc).mp h
    refine cap.clip_mono (Format.product_mono (Nat.le_refl _) ?_)
    exact Format.power_mono Duration.ofWhole_one_lt_top hc hone hexponent
  · have hone := (Binary.signed_le_ofNat hc).mp h
    refine cap.clip_mono (Format.product_mono (Nat.le_refl _) ?_)
    exact Format.power_anti Duration.ofWhole_one_lt_top hone hexponent

/-- Waits that grow by half. -/
def growing : Retry.Config :=
  ⟨5, .exponential (.ofSeconds 1) (.ofDecimal _ false 15 (-1)) (.ofSeconds 30), .none⟩

/-- The wait before the fifth attempt is not shorter than the one before the fourth. -/
theorem ordered_of_growing :
    growing.validate = .ok () ∧
      growing.backoff.strategy
        = .exponential (.ofSeconds 1) (.ofDecimal _ false 15 (-1)) (.ofSeconds 30) ∧
      2 ≤ 3 ∧ (Binary.ofNat _ 1).le (.ofDecimal .double false 15 (-1)) = true ∧
      ∃ d e, growing.backoff.strategy.delay? 2 = some d ∧
        growing.backoff.strategy.delay? 3 = some e ∧ d ≤ e := by
  have hv : growing.validate = .ok () := by decide +kernel
  have hone : (Binary.ofNat _ 1).le (.ofDecimal .double false 15 (-1)) = true := by decide +kernel
  obtain ⟨d, e, hd, he, hmono, -⟩ := exponential_waits_are_monotone hv rfl (by decide : 2 ≤ 3)
  exact ⟨hv, rfl, by decide, hone, d, e, hd, he, hmono hone⟩

end Strategy

end ClusterGuard
