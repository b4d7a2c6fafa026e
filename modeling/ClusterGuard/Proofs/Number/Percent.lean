import ClusterGuard.Proofs.Number.Order

/-!
# The order of percentages

A percentage is rounded four times: the part, a hundred times the part, the whole and the quotient.
Each time the order is kept, so more failures among as many outcomes, or as many among fewer, never
give a lower percentage. What is lost is the equality of a whole with a hundred percent of itself.

Results:
* **`percent_mono`**, **`percent_anti`**: the order of percentages of 32-bit whole numbers.
* **`le_percent_self`**: a whole is more of itself than any number below a hundred percent.
* **`percent_self`**: up to `671088`, it is exactly a hundred percent of itself.
* `percent_self_lt`: `671089` is less than a hundred percent of itself.
-/

namespace ClusterGuard

namespace Format

variable {f : Format} {m n : Nat}

/-- The code of a whole number. -/
def ofWhole (f : Format) (n : Nat) : Nat := f.nearest (n * 2 ^ f.least) 1

/-- The code of a hundred times a number that was rounded before. -/
def hundredfold (f : Format) (n : Nat) : Nat := f.nearest (100 * f.units (f.ofWhole n)) 1

/-- The code of a percentage. -/
def percent (f : Format) (part whole : Nat) : Nat :=
  f.nearest (f.units (f.hundredfold part) * 2 ^ f.least) (f.units (f.ofWhole whole))

/-! ## The order of percentages -/

theorem ofWhole_mono (h : m ≤ n) : f.ofWhole m ≤ f.ofWhole n :=
  nearest_mono (Nat.mul_le_mul_right _ h) 1

theorem hundredfold_mono (h : m ≤ n) : f.hundredfold m ≤ f.hundredfold n :=
  nearest_mono (Nat.mul_le_mul_left 100 (units_mono f (ofWhole_mono h))) 1

theorem percent_le_of_part_le {part part' : Nat} (h : part ≤ part') (whole : Nat) :
    f.percent part whole ≤ f.percent part' whole :=
  nearest_mono (Nat.mul_le_mul_right _ (units_mono f (hundredfold_mono h))) _

theorem percent_le_of_whole_le {whole whole' : Nat} (h : whole ≤ whole')
    (hpos : 0 < f.units (f.ofWhole whole)) (part : Nat) :
    f.percent part whole' ≤ f.percent part whole := by
  have hunits : f.units (f.ofWhole whole) ≤ f.units (f.ofWhole whole') :=
    units_mono f (ofWhole_mono h)
  exact nearest_le_nearest (Nat.lt_of_lt_of_le hpos hunits) hpos (Nat.mul_le_mul_left _ hunits)

/-! ## Whole numbers of 32 bits -/

theorem ofWhole_lt_top (h : n < 2 ^ 32) : single.ofWhole n < single.top := by
  have hlt := nearest_lt_top h
  rwa [Nat.shiftLeft_eq] at hlt

theorem le_units_ofWhole (h : 0 < n) : 2 ^ single.least ≤ single.units (single.ofWhole n) := by
  have hone : single.units (single.ofWhole 1) = 2 ^ single.least := by decide
  rw [← hone]
  exact units_mono single (ofWhole_mono h)

theorem units_ofWhole_pos (h : 0 < n) : 0 < single.units (single.ofWhole n) :=
  Nat.lt_of_lt_of_le (Nat.two_pow_pos _) (le_units_ofWhole h)

theorem hundredfold_lt_top (h : n < 2 ^ 32) : single.hundredfold n < single.top := by
  have hmax : single.hundredfold (2 ^ 32) < single.top := by decide
  exact Nat.lt_of_le_of_lt (hundredfold_mono (Nat.le_of_lt h)) hmax

/-! ## A whole as a percentage of itself -/

/-- What fits into a significand is a hundred percent of itself, if a hundred times as much fits,
too. -/
theorem percent_self_of_fits (hpos : 0 < n) (h : 25 * n < 2 ^ (f.fraction + 1))
    (hn : f.ofWhole n < f.top) (hh : f.hundredfold n < f.top) :
    f.percent n n = f.ofWhole 100 := by
  have hunits : f.units (f.ofWhole n) = n * 2 ^ f.least :=
    units_nearest_of_fits (by omega) hn
  have hproduct : 100 * (n * 2 ^ f.least) = 25 * n * 2 ^ (f.least + 2) := by ring
  have hhundred : f.units (f.hundredfold n) = 25 * n * 2 ^ (f.least + 2) := by
    unfold hundredfold at hh ⊢
    rw [hunits, hproduct] at hh ⊢
    exact units_nearest_of_fits h hh
  have hscale : 25 * n * 2 ^ (f.least + 2) * 2 ^ f.least
      = 100 * 2 ^ f.least * (n * 2 ^ f.least) := by ring
  have hwhole := nearest_mul_right f (100 * 2 ^ f.least) 1
    (Nat.mul_pos hpos (Nat.two_pow_pos f.least))
  rw [Nat.one_mul] at hwhole
  unfold percent
  rw [hhundred, hunits, hscale, hwhole]
  rfl

/-- What a hundred times a number loses by being rounded does not take a hundred percent down by
more than one place. -/
theorem before_hundred_le (hpos : 0 < n) (hlt : n < 2 ^ 32) :
    single.ofWhole 100 - 1 ≤ single.percent n n := by
  have hbefore : single.units (single.ofWhole 100 - 1) = 13107199 * 2 ^ 132 := by decide
  have hleast : 2 ^ single.least = 131072 * 2 ^ 132 := by decide
  have htop := hundredfold_lt_top hlt
  have hone := le_units_ofWhole hpos
  have hunit := units_ofWhole_pos hpos
  unfold hundredfold at htop
  unfold percent hundredfold
  generalize single.units (single.ofWhole n) = U at htop hone hunit ⊢
  have hnormal : 2 ^ single.fraction ≤ 100 * U / 1 := by
    have hle : 2 ^ single.fraction ≤ 2 ^ single.least := by decide
    omega
  have hround : 2 ^ 24 * (100 * U)
      ≤ 2 ^ 24 * (single.units (single.nearest (100 * U) 1) * 1) + 100 * U :=
    le_units_nearest Nat.one_pos hnormal htop
  generalize single.units (single.nearest (100 * U) 1) = M at hround ⊢
  refine le_nearest (by decide) hunit ?_
  rw [hbefore, hleast]
  calc 13107199 * 2 ^ 132 * U = 13107199 * U * 2 ^ 132 := by ring
    _ ≤ 131072 * M * 2 ^ 132 := Nat.mul_le_mul_right _ (by omega)
    _ = M * (131072 * 2 ^ 132) := by ring

end Format

namespace Binary

variable {f : Format} {a b c : Binary f} {part part' whole whole' n : Nat}

theorem le_trans (hab : a.le b = true) (hbc : b.le c = true) : a.le c = true := by
  cases ha : a.place? with
  | none => simp [le, ha] at hab
  | some i =>
    cases hb : b.place? with
    | none => simp [le, hb] at hbc
    | some j =>
      cases hc : c.place? with
      | none => simp [le, hc] at hbc
      | some k =>
        simp only [le, ha, hb, hc, decide_eq_true_eq] at hab hbc ⊢
        omega

theorem not_le_of_lt (h : a.lt b = true) : ¬b.le a = true := by
  cases ha : a.place? with
  | none => simp [lt, ha] at h
  | some i =>
    cases hb : b.place? with
    | none => simp [lt, ha, hb] at h
    | some j =>
      simp only [lt, le, ha, hb, decide_eq_true_eq] at h ⊢
      omega

theorem ofNat_eq (f : Format) (n : Nat) :
    ofNat f n = .signed false (f.ofWhole n) (f.nearest_le_top ..) := by
  unfold ofNat ofUnits Format.ofWhole
  simp only [Nat.shiftLeft_eq]

/-- Numbers that are not negative compare as their codes do. -/
theorem le_signed {x y : Nat} (hx : x ≤ f.top) (hy : y ≤ f.top) :
    (signed false x hx).le (signed false y hy) = true ↔ x ≤ y := by
  simp [le, place?]

theorem lt_signed {x y : Nat} (hx : x ≤ f.top) (hy : y ≤ f.top) :
    (signed false x hx).lt (signed false y hy) = true ↔ x < y := by
  simp [lt, place?]

theorem ofNat_le_signed {x : Nat} (hx : x ≤ f.top) :
    (ofNat f n).le (signed false x hx) = true ↔ f.ofWhole n ≤ x := by
  rw [ofNat_eq]
  exact le_signed ..

theorem signed_le_ofNat {x : Nat} (hx : x ≤ f.top) :
    (signed false x hx).le (ofNat f n) = true ↔ x ≤ f.ofWhole n := by
  rw [ofNat_eq]
  exact le_signed ..

theorem signed_lt_ofNat {x : Nat} (hx : x ≤ f.top) :
    (signed false x hx).lt (ofNat f n) = true ↔ x < f.ofWhole n := by
  rw [ofNat_eq]
  exact lt_signed ..

/-- The product of two numbers that are neither negative nor infinite. -/
theorem mul_signed {x y : Nat} (hx : x < f.top) (hy : y < f.top) :
    (signed false x (Nat.le_of_lt hx)).mul (signed false y (Nat.le_of_lt hy))
      = ofUnits f false (f.units x * f.units y) (2 ^ f.least) := by
  simp [mul, Nat.ne_of_lt hx, Nat.ne_of_lt hy, Nat.shiftLeft_eq]

/-- The quotient of two such numbers, the second of which is not zero. -/
theorem div_signed {x y : Nat} (hx : x < f.top) (hpos : y ≠ 0) (hy : y < f.top) :
    (signed false x (Nat.le_of_lt hx)).div (signed false y (Nat.le_of_lt hy))
      = ofUnits f false (f.units x * 2 ^ f.least) (f.units y) := by
  simp [div, Nat.ne_of_lt hx, Nat.ne_of_lt hy, hpos, Nat.shiftLeft_eq]

/-- The sum of two such numbers. -/
theorem add_signed {x y : Nat} (hx : x < f.top) (hy : y < f.top) :
    (signed false x (Nat.le_of_lt hx)).add (signed false y (Nat.le_of_lt hy))
      = ofUnits f false (f.units x + f.units y) 1 := by
  have hsum : ((f.units x : Int) + f.units y).natAbs = f.units x + f.units y := by omega
  have hsign : ¬((f.units x : Int) + f.units y < 0) := by omega
  simp [add, signedUnits, Nat.ne_of_lt hx, Nat.ne_of_lt hy, hsum, hsign]

/-- The code of a hundred times a whole number. -/
theorem mul_hundred_eq (hp : part < 2 ^ 32) :
    (ofNat .single part).mul (ofNat .single 100)
      = .signed false (Format.single.hundredfold part) (Format.nearest_le_top ..) := by
  have hhundred : Format.single.units (Format.single.ofWhole 100)
      = 100 * 2 ^ Format.single.least := by decide
  have hcode := Format.nearest_mul_right .single
    (100 * Format.single.units (Format.single.ofWhole part)) 1
    (Nat.two_pow_pos Format.single.least)
  rw [Nat.one_mul, Nat.mul_assoc, Nat.mul_left_comm] at hcode
  rw [ofNat_eq, ofNat_eq, mul_signed (Format.ofWhole_lt_top hp) (Format.ofWhole_lt_top (by decide)),
    hhundred]
  unfold ofUnits Format.hundredfold
  simp only [hcode]

/-- The code of a percentage. -/
theorem percent_eq (hp : part < 2 ^ 32) (hpos : 0 < whole) (hw : whole < 2 ^ 32) :
    percent part whole
      = .signed false (Format.single.percent part whole) (Format.nearest_le_top ..) := by
  have hne : Format.single.ofWhole whole ≠ 0 := by
    intro hzero
    have hunits := Format.units_ofWhole_pos hpos
    rw [hzero, Format.units_zero] at hunits
    exact absurd hunits (Nat.lt_irrefl 0)
  unfold percent
  rw [mul_hundred_eq hp, ofNat_eq,
    div_signed (Format.hundredfold_lt_top hp) hne (Format.ofWhole_lt_top hw)]
  rfl

/-- Nothing is no part of anything. -/
theorem percent_zero (hpos : 0 < whole) (hw : whole < 2 ^ 32) :
    percent 0 whole = .zero false := by
  have hcode : Format.single.percent 0 whole = 0 := by
    have hnone : Format.single.units (Format.single.hundredfold 0) = 0 := by decide
    unfold Format.percent
    rw [hnone, Nat.zero_mul, Format.nearest_zero]
  rw [percent_eq (by decide) hpos hw]
  simp only [hcode]
  rfl

/-- **A percentage grows with its part.** -/
theorem percent_mono (h : part ≤ part') (hp : part' < 2 ^ 32) (hpos : 0 < whole)
    (hw : whole < 2 ^ 32) : (percent part whole).le (percent part' whole) = true := by
  rw [percent_eq (Nat.lt_of_le_of_lt h hp) hpos hw, percent_eq hp hpos hw]
  exact (le_signed ..).mpr (Format.percent_le_of_part_le h whole)

/-- **A percentage does not grow with its whole.** -/
theorem percent_anti (h : whole ≤ whole') (hp : part < 2 ^ 32) (hpos : 0 < whole)
    (hw : whole' < 2 ^ 32) : (percent part whole').le (percent part whole) = true := by
  rw [percent_eq hp (Nat.lt_of_lt_of_le hpos h) hw,
    percent_eq hp hpos (Nat.lt_of_le_of_lt h hw)]
  exact (le_signed ..).mpr (Format.percent_le_of_whole_le h (Format.units_ofWhole_pos hpos) part)

/-- **A whole is more of itself than anything below a hundred percent.** -/
theorem le_percent_self {x : Binary .single} (h : x.lt (ofNat _ 100) = true) (hpos : 0 < n)
    (hlt : n < 2 ^ 32) : x.le (percent n n) = true := by
  have hcode := Format.before_hundred_le hpos hlt
  rw [percent_eq hlt hpos hlt]
  cases x with
  | nan => simp [lt, place?] at h
  | signed negative code _ =>
    rw [ofNat_eq] at h
    simp only [lt, le, place?, decide_eq_true_eq] at h ⊢
    cases negative with
    | false =>
      simp only [Bool.false_eq_true, if_false] at h ⊢
      omega
    | true =>
      simp only [Bool.false_eq_true, if_false, if_true]
      omega

/-- **A whole is a hundred percent of itself**, up to the last number before products with a hundred
are rounded. -/
theorem percent_self (hpos : 0 < n) (hle : n ≤ 671088) : percent n n = ofNat .single 100 := by
  have hlt : n < 2 ^ 32 := by omega
  have hfits : 25 * n < 2 ^ (Format.single.fraction + 1) := by
    have hbits : 2 ^ (Format.single.fraction + 1) = 16777216 := by decide
    omega
  have hcode := Format.percent_self_of_fits hpos hfits (Format.ofWhole_lt_top hlt)
    (Format.hundredfold_lt_top hlt)
  rw [percent_eq hlt hpos hlt, ofNat_eq]
  simp only [hcode]

/-- The next number is less than a hundred percent of itself. -/
theorem percent_self_lt : (percent 671089 671089).lt (ofNat .single 100) = true := by
  decide +kernel

end Binary

end ClusterGuard
