import ClusterGuard.Number.Binary
import Mathlib.Algebra.Group.Nat.Defs

/-!
# Whole numbers as floating-point numbers

Arithmetic on floating-point numbers leaves the order when it meets `nan`. These are the facts that
keep percentages in it: the code of a positive 32-bit whole number is neither zero nor infinity, so
neither a product nor a quotient with one is `nan`.

Results:
* `nearest_pos`, `nearest_lt_top`: the codes of the whole numbers from `1` to `2 ^ 32 - 1`.
* `percent_ne_nan`: a percentage is a number.
* `lt_of_not_le`: the order is total on numbers.
-/

namespace ClusterGuard

namespace Format

variable {f : Format} {q n : Nat}

/-- Rounding in terms of powers of two. -/
theorem nearest_eq (f : Format) (n d : Nat) :
    f.nearest n d
      = min f.top (f.binade (n / d) * 2 ^ f.fraction + divEven n (d * 2 ^ f.binade (n / d))) := by
  unfold nearest
  rw [Nat.shiftLeft_eq, Nat.shiftLeft_eq]

/-- A positive number of units reaches its binade. -/
theorem two_pow_binade_le (hq : 0 < q) : 2 ^ f.binade q ≤ q := by
  have hlog : f.binade q ≤ q.log2 := Nat.sub_le ..
  exact Nat.le_trans (Nat.pow_le_pow_right (by decide) hlog) (Nat.log2_self_le (Nat.ne_of_gt hq))

/-- In its binade a number has at most one bit more than the stored significand. -/
theorem div_binade_lt (f : Format) (q : Nat) : q / 2 ^ f.binade q < 2 ^ (f.fraction + 1) := by
  have hlog : q.log2 + 1 ≤ f.fraction + 1 + f.binade q := by
    unfold binade
    omega
  rw [Nat.div_lt_iff_lt_mul (Nat.two_pow_pos _), ← Nat.pow_add]
  exact Nat.lt_of_lt_of_le Nat.lt_log2_self (Nat.pow_le_pow_right (by decide) hlog)

theorem nearest_pos (hq : 0 < q) (htop : 0 < f.top) : 0 < f.nearest q 1 := by
  have hone : 1 ≤ q / 2 ^ f.binade q := Nat.div_pos (two_pow_binade_le hq) (Nat.two_pow_pos _)
  have hdiv := div_le_divEven q (2 ^ f.binade q)
  rw [nearest_eq, Nat.div_one, Nat.one_mul]
  omega

/-- The codes below infinity that whole numbers of 32 bits have. -/
theorem nearest_lt_top (hn : n < 2 ^ 32) :
    single.nearest (n <<< single.least) 1 < single.top := by
  rw [Nat.shiftLeft_eq]
  have hq : n * 2 ^ single.least < 2 ^ 181 := by
    have : 2 ^ 181 = 2 ^ 32 * 2 ^ single.least := by decide
    rw [this]
    exact Nat.mul_lt_mul_of_pos_right hn (Nat.two_pow_pos _)
  have hlog : (n * 2 ^ single.least).log2 < 181 := by
    rcases Nat.eq_zero_or_pos (n * 2 ^ single.least) with h0 | hpos
    · rw [h0]
      decide
    · exact (Nat.log2_lt (Nat.ne_of_gt hpos)).mpr hq
  have hbin : single.binade (n * 2 ^ single.least) ≤ 157 := by
    have : single.fraction = 23 := rfl
    unfold binade
    omega
  have hdiv := div_binade_lt single (n * 2 ^ single.least)
  have hround :=
    divEven_le_succ (n * 2 ^ single.least) (2 ^ single.binade (n * 2 ^ single.least))
  have hcode := Nat.mul_le_mul_right (2 ^ single.fraction) hbin
  have hsum : 157 * 2 ^ single.fraction + 2 ^ (single.fraction + 1) < single.top := by decide
  rw [nearest_eq, Nat.div_one, Nat.one_mul]
  omega

end Format

namespace Binary

variable {f : Format} {a b : Binary f}

/-- A number is at a place of the order exactly when it is not `nan`. -/
theorem exists_place (h : a ≠ .nan) : ∃ i, a.place? = some i := by
  cases a with
  | nan => exact absurd rfl h
  | signed negative code _ => exact ⟨_, rfl⟩

/-- The order is total on numbers. -/
theorem lt_of_not_le (ha : a ≠ .nan) (hb : b ≠ .nan) (h : ¬a.le b = true) : b.lt a = true := by
  obtain ⟨i, hi⟩ := exists_place ha
  obtain ⟨j, hj⟩ := exists_place hb
  simp only [le, lt, hi, hj, decide_eq_true_eq] at h ⊢
  omega

/-- What is above something is a number. -/
theorem ne_nan_of_lt (h : a.lt b = true) : b ≠ .nan := by
  rintro rfl
  cases a <;> simp [lt, place?] at h

/-- A percentage, computed as a product and a quotient of whole numbers. -/
def percent (part whole : Nat) : Binary .single :=
  ((ofNat _ part).mul (ofNat _ 100)).div (ofNat _ whole)

/-- A hundred times anything finite or infinite is a number. -/
theorem mul_hundred_ne_nan (n : Nat) : (ofNat .single n).mul (ofNat .single 100) ≠ .nan := by
  have hpos : Format.single.nearest (100 <<< Format.single.least) 1 ≠ 0 := by decide
  have hlt : Format.single.nearest (100 <<< Format.single.least) 1 ≠ Format.single.top := by decide
  unfold ofNat ofUnits mul
  simp only [hpos, hlt, and_false, or_false, if_false]
  split <;> simp [infinity, ofUnits]

/-- **A percentage is a number** when the whole is a positive number of 32 bits. -/
theorem percent_ne_nan (part : Nat) {whole : Nat} (hpos : 0 < whole) (hlt : whole < 2 ^ 32) :
    percent part whole ≠ .nan := by
  have hunits : 0 < whole <<< Format.single.least := by
    rw [Nat.shiftLeft_eq]
    exact Nat.mul_pos hpos (Nat.two_pow_pos _)
  have hzero := Nat.ne_of_gt (Format.nearest_pos hunits (f := .single) (by decide))
  have htop := Nat.ne_of_lt (Format.nearest_lt_top hlt)
  unfold percent
  cases hm : (ofNat .single part).mul (ofNat .single 100) with
  | nan => exact absurd hm (mul_hundred_ne_nan part)
  | signed negative code _ =>
    unfold ofNat ofUnits div
    simp only [hzero, htop, and_false, or_false, if_false]
    split <;> simp [infinity, ofUnits]

end Binary

end ClusterGuard
