import ClusterGuard.Proofs.Number.Whole
import Mathlib.Data.Nat.Log
import Mathlib.Order.Monotone.Basic
import Mathlib.Tactic.Ring

/-!
# The order of rounded quotients

A code is a number of binades and a significand (`exists_code`, `units_code`). Rounding keeps the
order of quotients, whatever their numerators and denominators, and returns the numbers of the
format as they are. Hence every comparison with a number of the format can be made before rounding.

Results:
* `units_mono`, `nearest_units`: magnitudes are ordered as their codes are, and rounding fixes them.
* **`nearest_le_nearest`**: rounding keeps the order of quotients.
* `le_nearest`, `nearest_le`: a number of the format that is not above a quotient, or not below it,
  is so for the rounded one.
* `units_nearest_of_fits`, `le_units_nearest`, `units_nearest_bounds`: what fits into a significand
  is not rounded, and what does not changes by at most half a unit in its last place.
* **`middle_le`**: rounding goes to the closer neighbour.
-/

namespace ClusterGuard

/-! ## Quotients -/

/-- A quotient does not depend on how it is expanded. -/
theorem divEven_mul_right (n d : Nat) {k : Nat} (hk : 0 < k) :
    divEven (n * k) (d * k) = divEven n d := by
  have hlt : d * k < 2 * (n % d * k) ↔ d < 2 * (n % d) := by
    rw [← Nat.mul_assoc]
    exact Nat.mul_lt_mul_right hk
  have heq : 2 * (n % d * k) = d * k ↔ 2 * (n % d) = d := by
    rw [← Nat.mul_assoc]
    exact Nat.mul_left_inj (Nat.ne_of_gt hk)
  unfold divEven
  simp only [Nat.mul_mod_mul_right, Nat.mul_div_mul_right _ _ hk, hlt, heq]

/-- A quotient that is less than half a unit away from a whole number is rounded to it. -/
theorem divEven_eq {m D q : Nat} (hlow : 2 * (q * D) < 2 * m + D)
    (hhigh : 2 * m < 2 * (q * D) + D) : divEven m D = q := by
  have hD : 0 < D := by omega
  obtain ⟨hup, hdown⟩ := divEven_bounds m hD
  rw [Nat.add_mul, Nat.one_mul, Nat.mul_assoc] at hup
  have hle : divEven m D * D < (q + 1) * D := by
    rw [Nat.add_mul, Nat.one_mul]
    omega
  have hge : q * D < (divEven m D + 1) * D := by
    rw [Nat.add_mul, Nat.one_mul]
    omega
  have hlt := Nat.lt_of_mul_lt_mul_right hle
  have hgt := Nat.lt_of_mul_lt_mul_right hge
  omega

namespace Format

variable {f : Format} {B b c c' d d' m n q s : Nat}

theorem binade_mono (h : m ≤ n) : f.binade m ≤ f.binade n := by
  unfold binade
  rw [Nat.log2_eq_log_two, Nat.log2_eq_log_two]
  exact Nat.sub_le_sub_right (Nat.log_mono_right h) _

/-- A bound on the binade of a number of units. -/
theorem binade_le (h : q < 2 ^ (f.fraction + 1) * 2 ^ b) : f.binade q ≤ b := by
  rcases Nat.eq_zero_or_pos q with rfl | hpos
  · simp [binade]
  · rw [← Nat.pow_add, ← Nat.log2_lt (Nat.ne_of_gt hpos)] at h
    unfold binade
    omega

/-- Above the finest binade the significand has all its bits. -/
theorem two_pow_fraction_le (h : 0 < f.binade q) : 2 ^ f.fraction ≤ q / 2 ^ f.binade q := by
  have hq : q ≠ 0 := by
    rintro rfl
    simp [binade] at h
  have hlog : f.fraction + f.binade q = q.log2 := by
    unfold binade at h ⊢
    omega
  rw [Nat.le_div_iff_mul_le (Nat.two_pow_pos _), ← Nat.pow_add, hlog]
  exact Nat.log2_self_le hq

/-- In its binade a quotient is rounded to at most one bit more than the significand has. -/
theorem divEven_binade_le (f : Format) (n d : Nat) :
    divEven n (d * 2 ^ f.binade (n / d)) ≤ 2 ^ (f.fraction + 1) := by
  have hlt := div_binade_lt f (n / d)
  rw [Nat.div_div_eq_div_mul] at hlt
  exact Nat.le_trans (divEven_le_succ ..) hlt

/-- Rounding keeps the order of numerators. -/
theorem nearest_mono (h : m ≤ n) (d : Nat) : f.nearest m d ≤ f.nearest n d := by
  rw [nearest_eq, nearest_eq]
  refine Nat.le_min.mpr ⟨Nat.min_le_left .., Nat.le_trans (Nat.min_le_right ..) ?_⟩
  have hbinade : f.binade (m / d) ≤ f.binade (n / d) := binade_mono (Nat.div_le_div_right h)
  rcases Nat.eq_or_lt_of_le hbinade with heq | hlt
  · rw [heq]
    exact Nat.add_le_add_left (divEven_mono h _) _
  · -- The larger quotient begins a binade that the smaller one does not reach.
    have hlow := divEven_binade_le f m d
    have hhigh := two_pow_fraction_le (Nat.zero_lt_of_lt hlt)
    rw [Nat.div_div_eq_div_mul] at hhigh
    have hround := div_le_divEven n (d * 2 ^ f.binade (n / d))
    have hstep := Nat.mul_le_mul_right (2 ^ f.fraction) (Nat.succ_le_of_lt hlt)
    rw [Nat.succ_mul] at hstep
    rw [Nat.pow_succ] at hlow
    omega

/-- A rounded quotient does not depend on how the quotient is expanded. -/
theorem nearest_mul_right (f : Format) (n d : Nat) {k : Nat} (hk : 0 < k) :
    f.nearest (n * k) (d * k) = f.nearest n d := by
  have hscale (b : Nat) : d * k * 2 ^ b = d * 2 ^ b * k := by ring
  rw [nearest_eq, nearest_eq, Nat.mul_div_mul_right _ _ hk, hscale, divEven_mul_right _ _ hk]

/-- **Rounding keeps the order of quotients.** -/
theorem nearest_le_nearest (hd : 0 < d) (hd' : 0 < d') (h : m * d' ≤ n * d) :
    f.nearest m d ≤ f.nearest n d' := by
  rw [← nearest_mul_right f m d hd', ← nearest_mul_right f n d' hd, Nat.mul_comm d' d]
  exact nearest_mono h _

/-! ## Codes -/

/-- A code counts the significands of all binades, one after the other. -/
theorem units_code (hs : s ≤ 2 ^ (f.fraction + 1)) (hB : B = 0 ∨ 2 ^ f.fraction ≤ s) :
    f.units (B * 2 ^ f.fraction + s) = s * 2 ^ B := by
  have hpos : 0 < 2 ^ f.fraction := Nat.two_pow_pos _
  rw [Nat.pow_succ] at hs
  unfold units
  simp only [Nat.shiftRight_eq_div_pow, Nat.shiftLeft_eq, Nat.one_mul, Nat.mul_comm B,
    Nat.mul_add_mod, Nat.mul_add_div hpos]
  rcases Nat.lt_or_ge s (2 ^ f.fraction) with hlt | hge
  · obtain rfl : B = 0 := hB.resolve_right (Nat.not_le.mpr hlt)
    rw [Nat.div_eq_of_lt hlt, if_pos rfl, Nat.mul_zero, Nat.zero_add, Nat.pow_zero, Nat.mul_one]
  · rcases Nat.lt_or_eq_of_le hs with hlt | rfl
    · have hdiv : s / 2 ^ f.fraction = 1 := Nat.div_eq_of_lt_le (by omega) (by omega)
      have hmod : 2 ^ f.fraction + s % 2 ^ f.fraction = s := by
        rw [Nat.mod_eq_sub_mod hge, Nat.mod_eq_of_lt (by omega)]
        omega
      rw [hdiv, if_neg (Nat.succ_ne_zero B), hmod, Nat.add_sub_cancel]
    · have hdiv : 2 ^ f.fraction * 2 / 2 ^ f.fraction = 2 := Nat.mul_div_cancel_left 2 hpos
      rw [hdiv, if_neg (Nat.succ_ne_zero _), Nat.mul_mod_right, Nat.add_zero]
      have hexp : B + 2 - 1 = B + 1 := rfl
      rw [hexp, Nat.pow_succ]
      ring

/-- Every code is a number of binades and a significand. -/
theorem exists_code (f : Format) (c : Nat) :
    ∃ B s, c = B * 2 ^ f.fraction + s ∧ s < 2 ^ (f.fraction + 1) ∧
      (B = 0 ∨ 2 ^ f.fraction ≤ s) := by
  have hpos : 0 < 2 ^ f.fraction := Nat.two_pow_pos _
  have hc := Nat.div_add_mod' c (2 ^ f.fraction)
  have hr := Nat.mod_lt c hpos
  rw [Nat.pow_succ]
  cases he : c / 2 ^ f.fraction with
  | zero => exact ⟨0, c, by omega, by rw [he] at hc; omega, .inl rfl⟩
  | succ B =>
    rw [he, Nat.succ_mul] at hc
    exact ⟨B, 2 ^ f.fraction + c % 2 ^ f.fraction, by omega, by omega, .inr (by omega)⟩

/-- Neighbours are one unit of their binade apart. -/
theorem units_succ (hs : s < 2 ^ (f.fraction + 1)) (hB : B = 0 ∨ 2 ^ f.fraction ≤ s) :
    f.units (B * 2 ^ f.fraction + s + 1) = f.units (B * 2 ^ f.fraction + s) + 2 ^ B := by
  have hnext : f.units (B * 2 ^ f.fraction + (s + 1)) = (s + 1) * 2 ^ B :=
    units_code hs (hB.imp_right Nat.le_succ_of_le)
  rw [Nat.add_assoc, hnext, units_code (Nat.le_of_lt hs) hB, Nat.succ_mul]

/-- Magnitudes are ordered as their codes are. -/
theorem units_mono (f : Format) : Monotone f.units := by
  refine monotone_nat_of_le_succ fun c => ?_
  obtain ⟨B, s, rfl, hs, hB⟩ := exists_code f c
  rw [units_succ hs hB]
  exact Nat.le_add_right ..

/-- Whole significands apart from the least positive magnitude, neighbours are two of the units
apart that the significands count. -/
theorem add_two_pow_le_units_succ {e : Nat} (h : 2 ^ (f.fraction + 1) * 2 ^ e ≤ f.units c) :
    f.units c + 2 * 2 ^ e ≤ f.units (c + 1) := by
  obtain ⟨B, s, rfl, hs, hB⟩ := exists_code f c
  have hlt : 2 ^ (f.fraction + 1) * 2 ^ e < 2 ^ (f.fraction + 1) * 2 ^ B := by
    rw [units_code (Nat.le_of_lt hs) hB] at h
    exact Nat.lt_of_le_of_lt h (Nat.mul_lt_mul_of_pos_right hs (Nat.two_pow_pos B))
  have hpow : 2 ^ e < 2 ^ B := Nat.lt_of_mul_lt_mul_left hlt
  have hexp : e < B := (Nat.pow_lt_pow_iff_right Nat.one_lt_two).mp hpow
  rw [units_succ hs hB, ← Nat.pow_succ']
  exact Nat.add_le_add_left (Nat.pow_le_pow_right Nat.two_pos hexp) _

/-- A magnitude lies in the binade of its code. -/
theorem binade_code (hs : s < 2 ^ (f.fraction + 1)) (hB : B = 0 ∨ 2 ^ f.fraction ≤ s) :
    f.binade (s * 2 ^ B) = B := by
  unfold binade
  rcases hB with rfl | hle
  · rw [Nat.pow_zero, Nat.mul_one]
    rcases Nat.eq_zero_or_pos s with rfl | hpos
    · simp
    · have := (Nat.log2_lt (Nat.ne_of_gt hpos)).mpr hs
      omega
  · have hpos : 0 < s := Nat.lt_of_lt_of_le (Nat.two_pow_pos _) hle
    have hlog : (s * 2 ^ B).log2 = f.fraction + B := by
      rw [Nat.log2_eq_iff (Nat.ne_of_gt (Nat.mul_pos hpos (Nat.two_pow_pos _)))]
      constructor
      · rw [Nat.pow_add]
        exact Nat.mul_le_mul_right _ hle
      · rw [Nat.add_right_comm, Nat.pow_add]
        exact Nat.mul_lt_mul_of_pos_right hs (Nat.two_pow_pos _)
    rw [hlog, Nat.add_sub_cancel_left]

/-- **Rounding fixes the numbers of the format.** -/
theorem nearest_units (hc : c ≤ f.top) : f.nearest (f.units c) 1 = c := by
  obtain ⟨B, s, rfl, hs, hB⟩ := exists_code f c
  rw [units_code (Nat.le_of_lt hs) hB, nearest_eq, Nat.div_one, Nat.one_mul, binade_code hs hB,
    divEven_mul_self s (Nat.two_pow_pos B)]
  exact Nat.min_eq_right hc

/-- A number of the format that is not above a quotient is not above the rounded quotient. -/
theorem le_nearest (hc : c ≤ f.top) (hd : 0 < d) (h : f.units c * d ≤ n) : c ≤ f.nearest n d := by
  have hle : f.nearest (f.units c) 1 ≤ f.nearest n d :=
    nearest_le_nearest Nat.one_pos hd (by rwa [Nat.mul_one])
  rwa [nearest_units hc] at hle

/-- A number of the format that is not below a quotient is not below the rounded quotient. -/
theorem nearest_le (hc : c ≤ f.top) (hd : 0 < d) (h : n ≤ f.units c * d) : f.nearest n d ≤ c := by
  have hle : f.nearest n d ≤ f.nearest (f.units c) 1 :=
    nearest_le_nearest hd Nat.one_pos (by rwa [Nat.mul_one])
  rwa [nearest_units hc] at hle

/-! ## What rounding loses -/

/-- Above the finest binade the whole part of a quotient has all bits of a significand. -/
theorem binade_eq_zero_or (f : Format) (n d : Nat) :
    f.binade (n / d) = 0 ∨ 2 ^ f.fraction ≤ n / (d * 2 ^ f.binade (n / d)) := by
  rcases Nat.eq_zero_or_pos (f.binade (n / d)) with hzero | hpos
  · exact .inl hzero
  · have hle := two_pow_fraction_le hpos
    rw [Nat.div_div_eq_div_mul] at hle
    exact .inr hle

/-- The magnitude of a rounded quotient that is not too large. -/
theorem units_nearest (h : f.nearest n d < f.top) :
    f.units (f.nearest n d)
      = divEven n (d * 2 ^ f.binade (n / d)) * 2 ^ f.binade (n / d) := by
  rw [nearest_eq] at h ⊢
  rw [Nat.min_eq_right (by omega)]
  refine units_code (divEven_binade_le f n d) ((binade_eq_zero_or f n d).imp_right fun hle => ?_)
  exact Nat.le_trans hle (div_le_divEven ..)

/-- What fits into a significand is not rounded. -/
theorem units_nearest_of_fits {a e : Nat} (ha : a < 2 ^ (f.fraction + 1))
    (h : f.nearest (a * 2 ^ e) 1 < f.top) : f.units (f.nearest (a * 2 ^ e) 1) = a * 2 ^ e := by
  rw [units_nearest h, Nat.div_one, Nat.one_mul]
  have hle : f.binade (a * 2 ^ e) ≤ e :=
    binade_le (Nat.mul_lt_mul_of_pos_right ha (Nat.two_pow_pos _))
  generalize f.binade (a * 2 ^ e) = B at hle ⊢
  have hsplit : a * 2 ^ e = a * 2 ^ (e - B) * 2 ^ B := by
    rw [Nat.mul_assoc, ← Nat.pow_add, Nat.sub_add_cancel hle]
  rw [hsplit, divEven_mul_self _ (Nat.two_pow_pos B)]

/-- What fits into a significand and is not above a number of the format is one. -/
theorem exists_units_eq {a e : Nat} (ha : a < 2 ^ (f.fraction + 1)) (hc : c < f.top)
    (h : a * 2 ^ e ≤ f.units c) : ∃ c' ≤ f.top, f.units c' = a * 2 ^ e := by
  have hle : f.nearest (a * 2 ^ e) 1 ≤ c :=
    nearest_le (Nat.le_of_lt hc) Nat.one_pos (by rwa [Nat.mul_one])
  exact ⟨_, nearest_le_top .., units_nearest_of_fits ha (Nat.lt_of_le_of_lt hle hc)⟩

/-- What does not fit loses at most half a unit in its last place. -/
theorem le_units_nearest (hd : 0 < d) (hq : 2 ^ f.fraction ≤ n / d) (h : f.nearest n d < f.top) :
    2 ^ (f.fraction + 1) * n ≤ 2 ^ (f.fraction + 1) * (f.units (f.nearest n d) * d) + n := by
  rw [units_nearest h]
  have hfull : 2 ^ f.fraction ≤ n / (d * 2 ^ f.binade (n / d)) := by
    rcases binade_eq_zero_or f n d with hzero | hle
    · rwa [hzero, Nat.pow_zero, Nat.mul_one]
    · exact hle
  generalize hD : d * 2 ^ f.binade (n / d) = D at hfull ⊢
  have hpos : 0 < D := hD ▸ Nat.mul_pos hd (Nat.two_pow_pos _)
  have hunit : 2 ^ f.fraction * D ≤ n := (Nat.le_div_iff_mul_le hpos).mp hfull
  have hhalf := Nat.mul_le_mul_left (2 ^ f.fraction) (divEven_bounds n hpos).1
  calc 2 ^ (f.fraction + 1) * n = 2 ^ f.fraction * (2 * n) := by ring
    _ ≤ 2 ^ f.fraction * ((2 * divEven n D + 1) * D) := hhalf
    _ = 2 ^ (f.fraction + 1) * (divEven n D * D) + 2 ^ f.fraction * D := by ring
    _ ≤ 2 ^ (f.fraction + 1) * (divEven n D * D) + n := Nat.add_le_add_left hunit _
    _ = 2 ^ (f.fraction + 1) * (divEven n D * 2 ^ f.binade (n / d) * d) + n := by
      rw [← hD]
      ring

/-- A rounded quotient is at most half a unit of its binade away. -/
theorem units_nearest_bounds (hd : 0 < d) (hb : f.binade (n / d) ≤ b)
    (h : f.nearest n d < f.top) :
    2 * n ≤ 2 * (f.units (f.nearest n d) * d) + d * 2 ^ b ∧
      2 * (f.units (f.nearest n d) * d) ≤ 2 * n + d * 2 ^ b := by
  have hbounds := divEven_bounds n (Nat.mul_pos hd (Nat.two_pow_pos (f.binade (n / d))))
  have hunit : d * 2 ^ f.binade (n / d) ≤ d * 2 ^ b :=
    Nat.mul_le_mul_left _ (Nat.pow_le_pow_right Nat.two_pos hb)
  rw [units_nearest h]
  generalize f.binade (n / d) = B at hbounds hunit
  have hscale : divEven n (d * 2 ^ B) * 2 ^ B * d = divEven n (d * 2 ^ B) * (d * 2 ^ B) := by ring
  rw [Nat.add_mul, Nat.one_mul, Nat.mul_assoc] at hbounds
  rw [hscale]
  omega

/-- **Rounding goes to the closer neighbour**: a quotient that is rounded above a number of the
format lies at least in the middle between it and the next one. -/
theorem middle_le (hd : 0 < d) (h : c < f.nearest n d) :
    (f.units c + f.units (c + 1)) * d ≤ 2 * n := by
  rw [nearest_eq] at h
  have hcode := Nat.lt_of_lt_of_le h (Nat.min_le_right ..)
  have hfull := binade_eq_zero_or f n d
  have hlast := divEven_binade_le f n d
  generalize f.binade (n / d) = B at hcode hfull hlast
  generalize hD : d * 2 ^ B = D at hcode hfull hlast
  have hpos : 0 < D := hD ▸ Nat.mul_pos hd (Nat.two_pow_pos B)
  have hround := div_le_divEven n D
  have hupper : f.units (c + 1) ≤ divEven n D * 2 ^ B := by
    rw [← units_code hlast (hfull.imp_right fun hle => Nat.le_trans hle hround)]
    exact units_mono f (Nat.succ_le_of_lt hcode)
  rcases Nat.eq_or_lt_of_le hround with hdown | hup
  · -- Rounded down, the quotient is not below the upper neighbour.
    have hlower : f.units c ≤ f.units (c + 1) := units_mono f (Nat.le_succ c)
    calc (f.units c + f.units (c + 1)) * d
        ≤ (divEven n D * 2 ^ B + divEven n D * 2 ^ B) * d :=
          Nat.mul_le_mul_right _ (Nat.add_le_add (Nat.le_trans hlower hupper) hupper)
      _ = 2 * (n / D * D) := by rw [← hdown, ← hD]; ring
      _ ≤ 2 * n := Nat.mul_le_mul_left _ (Nat.div_mul_le_self n D)
  · -- Rounded up, it lies at most half a unit below what it is rounded to.
    have hq : divEven n D = n / D + 1 := Nat.le_antisymm (divEven_le_succ n D) hup
    have hlower : f.units c ≤ n / D * 2 ^ B := by
      rw [← units_code (Nat.le_trans hround hlast) hfull]
      refine units_mono f ?_
      omega
    have hhalf := (divEven_bounds n hpos).2
    rw [hq] at hupper hhalf
    have hsum := Nat.mul_le_mul_right d (Nat.add_le_add hlower hupper)
    have hscale : (n / D * 2 ^ B + (n / D + 1) * 2 ^ B) * d + D = 2 * ((n / D + 1) * D) := by
      rw [← hD]
      ring
    omega

end Format

end ClusterGuard
