import ClusterGuard.Proofs.Retry.Exponential

/-!
# Scaled waits

Full jitter multiplies a wait, as a number of seconds, by a factor from zero to one, and rounds the
product to nanoseconds. A factor below one takes the number of seconds down by at least one place,
and what is below the seconds of a duration is not longer than it. A factor of exactly one leaves
the number as it is: then all depends on whether the wait comes back from its number of seconds no
longer than it was, which durations from `2 ^ 23` seconds on need not do.

Results:
* **`scaled_le_iff`**: a scaled wait is not longer than the wait, unless the factor is one and the
  wait itself comes back longer.
* `returns_of_seconds_lt`, `not_returns`: which waits come back.
* **`delay_le_iff`**: the same for all backoffs, retries and caps.
* **`delay?_eq_none_iff`**: exactly where a backoff comes to no duration, so that nothing is told of
  the call by the wait that stands in for it.
-/

namespace ClusterGuard

open Format (double)

variable {d : Duration} {factor : Binary .double} {x : Nat}

namespace Duration

/-- Whether a duration comes back from its number of seconds, and no longer than it was. -/
def Returns (d : Duration) : Prop := ∃ e, ofSeconds? d.toSeconds = some e ∧ e ≤ d

theorem not_isZero (h : 0 < d.nanos) : ¬d.isZero = true := by
  rw [isZero, beq_iff_eq]
  exact Nat.ne_of_gt h

/-- What a number of seconds is turned into, if it is not to be longer than `d`. -/
theorem exists_ofSeconds?_le_iff (h : x ≤ double.top) :
    (∃ e, ofSeconds? (.signed false x h) = some e ∧ e ≤ d) ↔ nanosOf x ≤ d.nanos := by
  simp only [ofSeconds?_eq_some_iff]
  generalize nanosOf x = n
  constructor
  · rintro ⟨e, rfl, hle⟩
    exact hle
  · exact fun hle => ⟨⟨n, hle.trans d.le_max⟩, rfl, hle⟩

theorem returns_iff : d.Returns ↔ nanosOf d.code ≤ d.nanos := by
  rw [Returns, d.toSeconds_eq]
  exact exists_ofSeconds?_le_iff _

/-- Durations of less than ninety-seven days come back. -/
theorem returns_of_seconds_lt (h : d.seconds < 2 ^ 23) : d.Returns :=
  returns_iff.mpr (nanosOf_code h).le

/-- From there on, a duration may come back longer, and the longest one does not come back. -/
theorem not_returns :
    ofSeconds? (ofParts (2 ^ 23) 1).toSeconds = some (ofParts (2 ^ 23) 2) ∧
      ofSeconds? longest.toSeconds = none := by
  decide +kernel

end Duration

namespace Jitter

/-- No wait stays no wait. -/
theorem scaled?_zero (j : Jitter) (factor : Binary .double) :
    j.scaled? factor .zero = some .zero := by
  cases j <;> rfl

/-- A factor from zero to one is the negative zero, or has a code. -/
theorem exists_code_of_unit (h0 : (Binary.zero false).le factor = true)
    (h1 : factor.le (Binary.ofNat _ 1) = true) :
    factor = .zero true ∨ ∃ x hx, factor = .signed false x hx ∧ x ≤ double.ofWhole 1 := by
  cases factor with
  | nan => cases h0
  | signed negative x hx =>
    cases negative with
    | false => exact .inr ⟨x, hx, rfl, (Binary.signed_le_ofNat hx).mp h1⟩
    | true =>
      have hzero : x = 0 := by
        simp [Binary.le, Binary.zero, Binary.place?] at h0
        omega
      subst hzero
      exact .inl rfl

/-- A factor below one takes the number of seconds down. -/
theorem product_code_lt (hd : 0 < d.nanos) (hx : x < double.ofWhole 1) :
    double.product x d.code < d.code := by
  have hbits := Duration.two_pow_fraction_lt_code hd
  obtain ⟨y, hy⟩ := Nat.exists_eq_succ_of_ne_zero (Nat.ne_of_gt (Nat.zero_lt_of_lt hbits))
  have htop := d.code_lt_top
  rw [hy] at hbits htop ⊢
  exact Nat.lt_succ_of_le
    (Format.product_le_of_lt_one Duration.ofWhole_one_lt_top hx (Nat.le_of_lt_succ hbits) htop)

/-- What a factor with a code scales a wait to. -/
theorem scaled?_signed (hx : x ≤ double.top) (hone : x ≤ double.ofWhole 1) (hd : 0 < d.nanos) :
    full.scaled? (.signed false x hx) d
      = Duration.ofSeconds?
          (.signed false (double.product x d.code) (double.product_le_top ..)) := by
  have htop := hone.trans_lt Duration.ofWhole_one_lt_top
  have hcode := d.code_lt_top
  rw [scaled?, if_neg (Duration.not_isZero hd), d.toSeconds_eq, Binary.mul_eq_product]
  omega

/-- The negative zero scales everything to nothing. -/
theorem scaled?_negative (hd : 0 < d.nanos) : full.scaled? (.zero true) d = some .zero := by
  have hnone : (Binary.zero true).mul d.toSeconds = .zero true := by
    have hcode : ¬d.code = double.top := Nat.ne_of_lt d.code_lt_top
    have htop : ¬0 = double.top := by decide
    rw [d.toSeconds_eq]
    unfold Binary.mul Binary.zero
    simp only [hcode, htop, and_false, false_and, or_self, if_false, Binary.ofUnits,
      Format.units_zero, Nat.zero_mul, Format.nearest_zero, Bool.xor_false]
  rw [scaled?, if_neg (Duration.not_isZero hd), hnone, Duration.ofSeconds?_zero]

/-- **A scaled wait is not longer than the wait**, unless the factor is one and the wait comes back
longer from its number of seconds. -/
theorem scaled_le_iff (h0 : (Binary.zero false).le factor = true)
    (h1 : factor.le (Binary.ofNat _ 1) = true) (d : Duration) :
    (∃ e, full.scaled? factor d = some e ∧ e ≤ d)
      ↔ factor.lt (Binary.ofNat _ 1) = true ∨ d.Returns := by
  rcases Nat.eq_zero_or_pos d.nanos with hzero | hpos
  · obtain rfl : d = .zero := Duration.ext_nanos hzero
    have hreturns : Duration.zero.Returns := Duration.returns_of_seconds_lt (by decide)
    exact ⟨fun _ => .inr hreturns, fun _ => ⟨.zero, scaled?_zero .., Nat.le_refl _⟩⟩
  obtain rfl | ⟨x, hx, rfl, hone⟩ := exists_code_of_unit h0 h1
  · have hlt : (Binary.zero true).lt (Binary.ofNat double 1) = true := by decide +kernel
    exact ⟨fun _ => .inl hlt, fun _ => ⟨.zero, scaled?_negative hpos, Nat.zero_le _⟩⟩
  · rw [scaled?_signed hx hone hpos, Duration.exists_ofSeconds?_le_iff, Binary.signed_lt_ofNat,
      Duration.returns_iff]
    rcases Nat.eq_or_lt_of_le hone with heq | hlt
    · have hsame : double.product (double.ofWhole 1) d.code = d.code :=
        Format.one_product Duration.ofWhole_one_lt_top (Nat.le_of_lt d.code_lt_top)
      rw [heq, hsame]
      exact ⟨.inr, fun h => h.resolve_left (Nat.lt_irrefl _)⟩
    · exact ⟨fun _ => .inl hlt, fun _ => Duration.nanosOf_le_of_lt (product_code_lt hpos hlt)⟩

/-- A factor of one makes of a wait what comes back from its number of seconds. -/
theorem scaled?_of_not_lt (h0 : (Binary.zero false).le factor = true)
    (h1 : factor.le (Binary.ofNat _ 1) = true) (hnot : factor.lt (Binary.ofNat _ 1) = false)
    (d : Duration) : full.scaled? factor d = Duration.ofSeconds? d.toSeconds := by
  rcases Nat.eq_zero_or_pos d.nanos with hzero | hpos
  · obtain rfl : d = .zero := Duration.ext_nanos hzero
    rw [scaled?_zero]
    decide +kernel
  obtain rfl | ⟨x, hx, rfl, hone⟩ := exists_code_of_unit h0 h1
  · have hlt : (Binary.zero true).lt (Binary.ofNat double 1) = true := by decide +kernel
    exact absurd (hnot.symm.trans hlt) Bool.false_ne_true
  · have heq : x = double.ofWhole 1 := by
      refine (Nat.eq_or_lt_of_le hone).resolve_right fun hlt => ?_
      exact absurd (hnot.symm.trans ((Binary.signed_lt_ofNat hx).mpr hlt)) Bool.false_ne_true
    have hsame : double.product x d.code = d.code := by
      rw [heq, Format.one_product Duration.ofWhole_one_lt_top (Nat.le_of_lt d.code_lt_top)]
    rw [scaled?_signed hx hone hpos, d.toSeconds_eq]
    simp only [hsame]

/-- **Where a scaled wait is no duration**: at a factor of one, if the wait does not come back from
its number of seconds. -/
theorem scaled?_eq_none_iff (h0 : (Binary.zero false).le factor = true)
    (h1 : factor.le (Binary.ofNat _ 1) = true) (d : Duration) :
    full.scaled? factor d = Option.none ↔
      factor.lt (Binary.ofNat _ 1) = false ∧ Duration.ofSeconds? d.toSeconds = Option.none := by
  cases hlt : factor.lt (Binary.ofNat _ 1) with
  | true =>
    obtain ⟨e, he, -⟩ := (scaled_le_iff h0 h1 d).mpr (.inl hlt)
    simp [he]
  | false => simp [scaled?_of_not_lt h0 h1 hlt d]

end Jitter

namespace Backoff

/-- **Waits of a backoff** are not longer than those of its strategy, which are not longer than the
cap, except where full jitter draws a factor of one for a wait that comes back longer. -/
theorem delay_le_iff (b : Backoff) (h0 : (Binary.zero false).le factor = true)
    (h1 : factor.le (Binary.ofNat _ 1) = true) (retry : Nat) :
    ∃ d, b.strategy.delay? retry = some d ∧ d ≤ b.strategy.cap ∧
      ((∃ e, b.delay? factor retry = some e ∧ e ≤ d)
        ↔ b.jitter = .none ∨ factor.lt (Binary.ofNat _ 1) = true ∨ d.Returns) := by
  obtain ⟨d, hd, hcap⟩ := b.strategy.delay?_le_cap retry
  refine ⟨d, hd, hcap, ?_⟩
  unfold delay?
  rw [hd, Option.bind_some]
  cases hj : b.jitter with
  | none => exact ⟨fun _ => .inl rfl, fun _ => ⟨d, rfl, Nat.le_refl _⟩⟩
  | full =>
    rw [Jitter.scaled_le_iff h0 h1]
    exact ⟨.inr, fun h => h.resolve_left nofun⟩

/-- **Where a backoff comes to no duration.** Everywhere else `delay` is what it comes to. -/
theorem delay?_eq_none_iff (b : Backoff) (h0 : (Binary.zero false).le factor = true)
    (h1 : factor.le (Binary.ofNat _ 1) = true) (retry : Nat) :
    b.delay? factor retry = Option.none ↔ b.jitter = .full ∧ factor.lt (Binary.ofNat _ 1) = false ∧
      Duration.ofSeconds? (b.strategy.delay retry).toSeconds = Option.none := by
  obtain ⟨d, hd, -⟩ := b.strategy.delay?_le_cap retry
  have hdelay : b.strategy.delay retry = d := by rw [Strategy.delay, hd, Option.getD_some]
  rw [delay?, hd, hdelay, Option.bind_some]
  cases b.jitter with
  | none => simp [Jitter.scaled?]
  | full => simp [Jitter.scaled?_eq_none_iff h0 h1]

theorem delay?_eq_some {b : Backoff} {retry : Nat} (h : b.delay? factor retry ≠ Option.none) :
    b.delay? factor retry = some (b.delay factor retry) := by
  obtain ⟨e, he⟩ := Option.ne_none_iff_exists'.mp h
  rw [delay, he, Option.getD_some]

end Backoff

end ClusterGuard
