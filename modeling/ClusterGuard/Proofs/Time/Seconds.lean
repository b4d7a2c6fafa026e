import ClusterGuard.Proofs.Number.Percent
import ClusterGuard.Time.Duration

/-!
# Durations as numbers of seconds

A duration is turned into a number of seconds in three steps, each of which is rounded: the whole
seconds become a number, so does the quotient of the other nanoseconds, and the two are added. The
number may lie above the duration or below it, and a number is turned back with one more rounding.
Both ways keep the order all the same, and more is true: a number that is below that of a duration
does not become a longer duration.

Results:
* `toSeconds_eq`, `ofSeconds?_signed`: both ways, on the codes of numbers.
* **`nanosOf_le_of_lt`**: what is below the seconds of a duration is not longer than it, as rounded
  as all of them are.
* `clip_le`, `clip_mono`: a number of seconds as a duration that is cut off at a cap.
* **`nanosOf_code`**: durations below `2 ^ 23` seconds come back as they were.
-/

namespace ClusterGuard

namespace Duration

open Format (double)

variable {c c' : Nat} {d : Duration}

/-- How many of the least positive magnitudes a second has. -/
def unitsPerSecond : Nat := 2 ^ double.least

theorem two_pow_least : 2 ^ double.least = unitsPerSecond := by rw [unitsPerSecond]

theorem unitsPerSecond_pos : 0 < unitsPerSecond := Nat.two_pow_pos _

/-- The code of the whole seconds of a duration. -/
def wholeCode (d : Duration) : Nat := double.ofWhole d.seconds

/-- The code of what a duration has beyond its whole seconds. -/
def restCode (d : Duration) : Nat := double.nearest (d.subsecond * unitsPerSecond) nanosPerSecond

/-- The code of the number of seconds of a duration. -/
def code (d : Duration) : Nat :=
  double.nearest (double.units d.wholeCode + double.units d.restCode) 1

/-- The nanoseconds closest to the number of seconds with a code. -/
def nanosOf (c : Nat) : Nat := divEven (double.units c * nanosPerSecond) unitsPerSecond

theorem seconds_lt (d : Duration) : d.seconds < 2 ^ 64 := by
  have hmax := d.le_max
  unfold maxNanos nanosPerSecond UInt64.size at hmax
  unfold seconds nanosPerSecond
  omega

theorem subsecond_lt (d : Duration) : d.subsecond < nanosPerSecond := Nat.mod_lt _ (by decide)

theorem nanos_eq (d : Duration) : d.nanos = d.seconds * nanosPerSecond + d.subsecond :=
  (Nat.div_add_mod' d.nanos nanosPerSecond).symm

/-! ## Whole seconds -/

/-- More seconds than a duration can hold are still a finite number. -/
theorem nearest_longest_lt_top :
    double.nearest (2 ^ 64 * unitsPerSecond + unitsPerSecond) 1 < double.top := by
  decide +kernel

theorem ofWhole_lt_top {n : Nat} (h : n ≤ 2 ^ 64) : double.ofWhole n < double.top := by
  refine Nat.lt_of_le_of_lt (Format.nearest_mono ?_ 1) nearest_longest_lt_top
  rw [two_pow_least]
  exact Nat.le_trans (Nat.mul_le_mul_right _ h) (Nat.le_add_right ..)

theorem ofWhole_one_lt_top : double.ofWhole 1 < double.top := ofWhole_lt_top (by decide)

theorem wholeCode_lt_top (d : Duration) : d.wholeCode < double.top :=
  ofWhole_lt_top (Nat.le_of_lt d.seconds_lt)

/-- Whole numbers that fit into a significand are not rounded, -/
theorem units_ofWhole {n : Nat} (h : n < 2 ^ 53) :
    double.units (double.ofWhole n) = n * unitsPerSecond :=
  Format.units_nearest_of_fits h (ofWhole_lt_top (Nat.le_trans (Nat.le_of_lt h) (by decide)))

/-- and neither are powers of two. -/
theorem units_ofWhole_two_pow {k : Nat} (h : k ≤ 64) :
    double.units (double.ofWhole (2 ^ k)) = 2 ^ k * unitsPerSecond := by
  have hlt := ofWhole_lt_top (Nat.pow_le_pow_right Nat.two_pos h)
  have hsplit : 2 ^ k * 2 ^ double.least = 1 * 2 ^ (k + double.least) := by
    rw [Nat.pow_add, Nat.one_mul]
  rw [Format.ofWhole, hsplit] at hlt
  rw [Format.ofWhole, unitsPerSecond, hsplit]
  exact Format.units_nearest_of_fits (by decide) hlt

/-! ## The steps -/

/-- The rest is less than a second. -/
theorem units_restCode_lt (d : Duration) : double.units d.restCode < unitsPerSecond := by
  have hmax : double.units
      (double.nearest ((nanosPerSecond - 1) * unitsPerSecond) nanosPerSecond)
      < unitsPerSecond := by
    decide +kernel
  refine Nat.lt_of_le_of_lt (Format.units_mono _ (Format.nearest_mono ?_ _)) hmax
  exact Nat.mul_le_mul_right _ (Nat.le_sub_one_of_lt d.subsecond_lt)

theorem units_wholeCode_le (d : Duration) :
    double.units d.wholeCode ≤ 2 ^ 64 * unitsPerSecond := by
  rw [← units_ofWhole_two_pow (Nat.le_refl _)]
  exact Format.units_mono _ (Format.ofWhole_mono (Nat.le_of_lt d.seconds_lt))

theorem code_lt_top (d : Duration) : d.code < double.top := by
  refine Nat.lt_of_le_of_lt (Format.nearest_mono ?_ 1) nearest_longest_lt_top
  exact Nat.add_le_add d.units_wholeCode_le (Nat.le_of_lt d.units_restCode_lt)

theorem restCode_le_one (d : Duration) : d.restCode ≤ double.ofWhole 1 := by
  refine Format.nearest_le (Nat.le_of_lt ofWhole_one_lt_top) (by decide) ?_
  rw [units_ofWhole (by decide), Nat.one_mul, Nat.mul_comm unitsPerSecond]
  exact Nat.mul_le_mul_right _ (Nat.le_of_lt d.subsecond_lt)

theorem restCode_lt_top (d : Duration) : d.restCode < double.top :=
  Nat.lt_of_le_of_lt d.restCode_le_one ofWhole_one_lt_top

theorem toSeconds_eq (d : Duration) :
    d.toSeconds = .signed false d.code (Nat.le_of_lt d.code_lt_top) := by
  have hsub : d.subsecond < 2 ^ 53 := Nat.lt_trans d.subsecond_lt (by decide)
  have hper : nanosPerSecond < 2 ^ 53 := by decide
  have hlt : double.ofWhole nanosPerSecond < double.top := ofWhole_lt_top (by decide)
  have hsublt : double.ofWhole d.subsecond < double.top :=
    Nat.lt_of_le_of_lt (Format.ofWhole_mono (Nat.le_of_lt d.subsecond_lt)) hlt
  have hne : double.ofWhole nanosPerSecond ≠ 0 := by
    intro hzero
    have hunits := units_ofWhole hper
    rw [hzero, Format.units_zero] at hunits
    exact Nat.ne_of_lt (Nat.mul_pos (by decide) unitsPerSecond_pos) hunits
  have hquotient : double.nearest (d.subsecond * unitsPerSecond * unitsPerSecond)
      (nanosPerSecond * unitsPerSecond) = d.restCode :=
    Format.nearest_mul_right double _ _ unitsPerSecond_pos
  have hrest : (Binary.ofNat double d.subsecond).div (Binary.ofNat double nanosPerSecond)
      = .signed false d.restCode (Nat.le_of_lt d.restCode_lt_top) := by
    rw [Binary.ofNat_eq, Binary.ofNat_eq]
    refine (Binary.div_signed hsublt hne hlt).trans ?_
    rw [units_ofWhole hsub, units_ofWhole hper]
    rw [two_pow_least]
    unfold Binary.ofUnits
    simp only [hquotient]
  unfold toSeconds
  rw [hrest, Binary.ofNat_eq]
  exact Binary.add_signed d.wholeCode_lt_top d.restCode_lt_top

/-- A number of seconds that is not negative, read as a duration. -/
theorem ofSeconds?_signed (h : c ≤ double.top) :
    ofSeconds? (.signed false c h) =
      if hle : nanosOf c ≤ maxNanos then some ⟨nanosOf c, hle⟩ else none := by
  have hnanos : divEven (double.units c * nanosPerSecond) (1 <<< double.least) = nanosOf c := by
    rw [Nat.one_shiftLeft, two_pow_least, nanosOf]
  unfold ofSeconds?
  simp only [hnanos]
  rfl

theorem ofSeconds?_eq_some_iff (h : c ≤ double.top) :
    ofSeconds? (.signed false c h) = some d ↔ d.nanos = nanosOf c := by
  rw [ofSeconds?_signed]
  generalize nanosOf c = n
  split
  next hmax =>
    rw [Option.some.injEq]
    constructor
    · rintro rfl
      rfl
    · exact fun heq => ext_nanos heq.symm
  next hmax =>
    constructor
    · exact nofun
    · exact fun heq => absurd (heq ▸ d.le_max) hmax

/-- The negative zero is no time. -/
theorem ofSeconds?_zero (negative : Bool) : ofSeconds? (.zero negative) = some .zero := by
  simp [ofSeconds?, Binary.zero, Format.units_zero, divEven, zero]

theorem nanosOf_mono (h : c ≤ c') : nanosOf c ≤ nanosOf c' :=
  divEven_mono (Nat.mul_le_mul_right _ (Format.units_mono _ h)) _

/-- What a number of the format has beyond some whole seconds is not below the rounded rest of a
duration, if it is not below the rest. -/
theorem add_units_restCode_le (hc : c < double.top)
    (h : d.nanos * unitsPerSecond < double.units c * nanosPerSecond) :
    d.seconds * unitsPerSecond + double.units d.restCode ≤ double.units c := by
  have hrest : d.seconds * unitsPerSecond * nanosPerSecond + d.subsecond * unitsPerSecond
      < double.units c * nanosPerSecond := by
    rwa [d.nanos_eq, Nat.add_mul, Nat.mul_right_comm] at h
  have hwhole : d.seconds * unitsPerSecond < double.units c :=
    Nat.lt_of_mul_lt_mul_right (Nat.lt_of_le_of_lt (Nat.le_add_right ..) hrest)
  obtain ⟨B, s, rfl, hs, hB⟩ := Format.exists_code double c
  have hunits := Format.units_code (Nat.le_of_lt hs) hB
  rcases Nat.le_total B double.least with hfine | hcoarse
  · -- The difference counts the same units as the number, and is again a number.
    have hunit : unitsPerSecond = 2 ^ (double.least - B) * 2 ^ B := by
      rw [← Nat.pow_add, Nat.sub_add_cancel hfine, two_pow_least]
    have hle : d.seconds * 2 ^ (double.least - B) ≤ s := by
      rw [hunits, hunit, ← Nat.mul_assoc] at hwhole
      exact Nat.le_of_lt (Nat.lt_of_mul_lt_mul_right hwhole)
    obtain ⟨a, ha⟩ := Nat.exists_eq_add_of_le hle
    have hsplit : s * 2 ^ B = d.seconds * unitsPerSecond + a * 2 ^ B := by
      rw [ha, hunit]
      ring
    rw [hsplit] at hunits
    obtain ⟨c', hc', hunits'⟩ := Format.exists_units_eq
      (Nat.lt_of_le_of_lt (ha ▸ Nat.le_add_left a _) hs) hc (hunits ▸ Nat.le_add_left ..)
    rw [hunits, Nat.add_mul] at hrest
    rw [hunits, ← hunits']
    refine Nat.add_le_add_left (Format.units_mono _ (Format.nearest_le hc' (by decide) ?_)) _
    rw [hunits']
    omega
  · -- The difference is a positive number of seconds.
    have hunit : 2 ^ B = 2 ^ (B - double.least) * unitsPerSecond := by
      rw [← two_pow_least, ← Nat.pow_add, Nat.sub_add_cancel hcoarse]
    rw [hunits, hunit, ← Nat.mul_assoc] at hwhole ⊢
    have hlt := Nat.lt_of_mul_lt_mul_right hwhole
    calc d.seconds * unitsPerSecond + double.units d.restCode
        ≤ d.seconds * unitsPerSecond + unitsPerSecond :=
          Nat.add_le_add_left (Nat.le_of_lt d.units_restCode_lt) _
      _ = (d.seconds + 1) * unitsPerSecond := (Nat.succ_mul ..).symm
      _ ≤ s * 2 ^ (B - double.least) * unitsPerSecond := Nat.mul_le_mul_right _ hlt

/-- From `2 ^ 53` seconds on, the rest is lost. -/
theorem code_le_wholeCode (h : 2 ^ 53 ≤ d.seconds) : d.code ≤ d.wholeCode := by
  have hlarge : 2 ^ (double.fraction + 1) * 2 ^ double.least ≤ double.units d.wholeCode := by
    have hmin : double.units (double.ofWhole (2 ^ 53))
        = 2 ^ (double.fraction + 1) * 2 ^ double.least := by
      have hbits : double.fraction + 1 = 53 := rfl
      rw [units_ofWhole_two_pow (by decide), hbits, two_pow_least]
    rw [← hmin]
    exact Format.units_mono _ (Format.ofWhole_mono h)
  refine Nat.le_of_not_lt fun hlt => ?_
  have hmiddle := Format.middle_le Nat.one_pos hlt
  have hgap := Format.add_two_pow_le_units_succ hlarge
  have hrest := d.units_restCode_lt
  rw [two_pow_least] at hgap
  omega

theorem code_le_of_lt (hc : c ≤ double.top)
    (h : d.nanos * unitsPerSecond < double.units c * nanosPerSecond) : d.code ≤ c := by
  rcases Nat.eq_or_lt_of_le hc with rfl | hlt
  · exact Nat.le_of_lt d.code_lt_top
  have hle := add_units_restCode_le hlt h
  rcases Nat.lt_or_ge d.seconds (2 ^ 53) with hfits | hlarge
  · refine Format.nearest_le hc Nat.one_pos ?_
    rwa [wholeCode, units_ofWhole hfits, Nat.mul_one]
  · refine Nat.le_trans (code_le_wholeCode hlarge) (Format.nearest_le hc Nat.one_pos ?_)
    rw [Nat.mul_one]
    exact Nat.le_trans (Nat.le_add_right ..) hle

/-- **A number of seconds that is below that of a duration is not longer, even as a duration.** -/
theorem nanosOf_le_of_lt (h : c < d.code) : nanosOf c ≤ d.nanos := by
  have hle : double.units c * nanosPerSecond ≤ d.nanos * unitsPerSecond := by
    refine Nat.le_of_not_lt fun hlt => Nat.not_le_of_lt h ?_
    exact code_le_of_lt (Nat.le_of_lt (Nat.lt_trans h d.code_lt_top)) hlt
  calc nanosOf c ≤ divEven (d.nanos * unitsPerSecond) unitsPerSecond := divEven_mono hle _
    _ = d.nanos := divEven_mul_self _ unitsPerSecond_pos

/-! ## Caps -/

/-- The duration nearest to the number of seconds with a code, if that is below the seconds of the
cap, and otherwise the cap. -/
def clip (cap : Duration) (c : Nat) : Duration :=
  if h : c < cap.code then ⟨nanosOf c, Nat.le_trans (nanosOf_le_of_lt h) cap.le_max⟩ else cap

theorem clip_of_le (h : d.code ≤ c) : d.clip c = d := dif_neg (Nat.not_lt_of_le h)

theorem clip_of_lt (h : c < d.code) : (d.clip c).nanos = nanosOf c := by rw [clip, dif_pos h]

theorem ofSeconds?_of_lt (h : c < d.code) (hc : c ≤ double.top) :
    ofSeconds? (.signed false c hc) = some (d.clip c) := by
  rw [ofSeconds?_signed, dif_pos (Nat.le_trans (nanosOf_le_of_lt h) d.le_max), clip, dif_pos h]

theorem clip_le (d : Duration) (c : Nat) : d.clip c ≤ d := by
  rcases Nat.lt_or_ge c d.code with hlt | hle
  · rw [le_iff, clip_of_lt hlt]
    exact nanosOf_le_of_lt hlt
  · rw [clip_of_le hle]
    exact Nat.le_refl _

theorem clip_mono (d : Duration) (h : c ≤ c') : d.clip c ≤ d.clip c' := by
  rcases Nat.lt_or_ge c' d.code with hlt | hle
  · rw [le_iff, clip_of_lt hlt, clip_of_lt (Nat.lt_of_le_of_lt h hlt)]
    exact nanosOf_mono h
  · rw [clip_of_le hle]
    exact clip_le d c

/-! ## There and back -/

/-- The shortest wait has a code far above the finest binades. -/
theorem two_pow_fraction_lt_code (h : 0 < d.nanos) : 2 ^ double.fraction < d.code := by
  have hnano : 2 ^ double.fraction < double.nearest unitsPerSecond nanosPerSecond := by
    decide +kernel
  refine Nat.lt_of_lt_of_le hnano ?_
  refine Format.le_nearest (Format.nearest_le_top ..) Nat.one_pos ?_
  rw [Nat.mul_one]
  rcases Nat.eq_zero_or_pos d.seconds with hzero | hpos
  · have hsub : 0 < d.subsecond := by
      rw [d.nanos_eq, hzero] at h
      omega
    have hle : double.nearest unitsPerSecond nanosPerSecond ≤ d.restCode :=
      Format.nearest_mono (Nat.le_mul_of_pos_left _ hsub) _
    exact Nat.le_trans (Format.units_mono _ hle) (Nat.le_add_left ..)
  · have hle : double.nearest unitsPerSecond nanosPerSecond ≤ d.wholeCode := by
      have hone : double.nearest unitsPerSecond nanosPerSecond ≤ double.ofWhole 1 := by
        refine Format.nearest_le_nearest (by decide) Nat.one_pos ?_
        rw [two_pow_least, Nat.one_mul]
        exact Nat.mul_le_mul_left _ (by decide)
      exact Nat.le_trans hone (Format.ofWhole_mono hpos)
    exact Nat.le_trans (Format.units_mono _ hle) (Nat.le_add_right ..)

/-- Only no time at all is cut off at zero. -/
theorem clip_zero (d : Duration) : d.clip 0 = .zero := by
  refine ext_nanos ?_
  rcases Nat.eq_zero_or_pos d.nanos with hzero | hpos
  · exact Nat.le_zero.mp (Nat.le_trans (d.clip_le 0) (Nat.le_of_eq hzero))
  · have hnone := divEven_mul_self 0 unitsPerSecond_pos
    rw [Nat.zero_mul] at hnone
    rw [clip_of_lt (Nat.zero_lt_of_lt (two_pow_fraction_lt_code hpos)), nanosOf,
      Format.units_zero, Nat.zero_mul, hnone]
    rfl

/-- **Durations below `2 ^ 23` seconds survive**: their numbers of seconds are less than half a
nanosecond away from them. -/
theorem nanosOf_code (h : d.seconds < 2 ^ 23) : nanosOf d.code = d.nanos := by
  have hbits : double.fraction + 1 = 53 := rfl
  have hunit : unitsPerSecond = 2 ^ 53 * 2 ^ (double.least - 53) := by
    rw [pow_mul_pow_sub 2 (by decide), two_pow_least]
  have hulp : 2 ^ (double.least - 30) = 2 ^ 23 * 2 ^ (double.least - 53) := by
    have hsplit : double.least - 30 = 23 + (double.least - 53) := rfl
    rw [hsplit, Nat.pow_add]
  have hwhole : double.units d.wholeCode = d.seconds * unitsPerSecond :=
    units_ofWhole (Nat.lt_trans h (by decide))
  have hrest : double.binade (d.subsecond * unitsPerSecond / nanosPerSecond)
      ≤ double.least - 53 := by
    refine Format.binade_le ?_
    rw [hbits, ← hunit, Nat.div_lt_iff_lt_mul (by decide), Nat.mul_comm unitsPerSecond]
    exact Nat.mul_lt_mul_of_pos_right d.subsecond_lt unitsPerSecond_pos
  have hsum : double.binade ((double.units d.wholeCode + double.units d.restCode) / 1)
      ≤ double.least - 30 := by
    have hle : d.seconds * unitsPerSecond + unitsPerSecond ≤ 2 ^ 23 * unitsPerSecond := by
      rw [← Nat.succ_mul]
      exact Nat.mul_le_mul_right _ h
    have hscale : 2 ^ 23 * unitsPerSecond
        = 2 ^ (double.fraction + 1) * 2 ^ (double.least - 30) := by
      rw [hbits, hunit, hulp, Nat.mul_left_comm]
    refine Format.binade_le ?_
    rw [Nat.div_one, hwhole, ← hscale]
    exact Nat.lt_of_lt_of_le (Nat.add_lt_add_left d.units_restCode_lt _) hle
  have hpos : 0 < 2 ^ (double.least - 53) := Nat.two_pow_pos _
  have hlast := Format.units_nearest_bounds (by decide) hrest d.restCode_lt_top
  have hfirst := Format.units_nearest_bounds Nat.one_pos hsum d.code_lt_top
  rw [← restCode, nanosPerSecond] at hlast
  rw [← code, hwhole, hulp] at hfirst
  have hscale : d.nanos * unitsPerSecond
      = d.seconds * unitsPerSecond * 1000000000 + d.subsecond * unitsPerSecond := by
    rw [d.nanos_eq, nanosPerSecond]
    ring
  refine divEven_eq ?_ ?_
  · rw [hscale, nanosPerSecond]
    omega
  · rw [hscale, nanosPerSecond]
    omega

end Duration

end ClusterGuard
