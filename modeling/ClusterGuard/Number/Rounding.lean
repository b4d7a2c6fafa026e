/-!
# Quotients rounded to the nearest whole number

`divEven n d` is `n / d` rounded to the nearest whole number, a half going to the even neighbour.
It is the one rounding rule of the library: floating-point results and durations read from
floating-point seconds both go through it.

Results:
* `divEven_mul_self`: an exact quotient is returned as it is.
* `divEven_bounds`: the result is within half a unit of the quotient.
* `divEven_mono`: rounding keeps the order.
-/

namespace ClusterGuard

/-- `n / d` to the nearest whole number; a half goes to the even neighbour. -/
def divEven (n d : Nat) : Nat :=
  if d < 2 * (n % d) ∨ (2 * (n % d) = d ∧ n / d % 2 = 1) then n / d + 1 else n / d

theorem divEven_mul_self (q : Nat) {d : Nat} (hd : 0 < d) : divEven (q * d) d = q := by
  have hm : q * d % d = 0 := Nat.mul_mod_left q d
  have hq : q * d / d = q := Nat.mul_div_cancel q hd
  simp only [divEven, hm, hq]
  rw [if_neg (by omega)]

theorem divEven_le_succ (n d : Nat) : divEven n d ≤ n / d + 1 := by
  unfold divEven; split <;> omega

theorem div_le_divEven (n d : Nat) : n / d ≤ divEven n d := by
  unfold divEven; split <;> omega

/-- The result is within half a unit of the quotient. -/
theorem divEven_bounds (n : Nat) {d : Nat} (hd : 0 < d) :
    2 * n ≤ (2 * divEven n d + 1) * d ∧ 2 * (divEven n d * d) ≤ 2 * n + d := by
  have hn : n / d * d + n % d = n := by rw [Nat.mul_comm]; exact Nat.div_add_mod n d
  have hr : n % d < d := Nat.mod_lt n hd
  unfold divEven
  generalize n / d = q at hn ⊢
  generalize n % d = r at hn hr ⊢
  split
  · rw [Nat.add_mul, Nat.mul_assoc, Nat.add_mul]; omega
  · rw [Nat.add_mul, Nat.mul_assoc]; omega

/-- Rounding keeps the order. -/
theorem divEven_mono {m n : Nat} (h : m ≤ n) (d : Nat) : divEven m d ≤ divEven n d := by
  rcases Nat.eq_zero_or_pos d with rfl | hd
  · simp only [divEven, Nat.div_zero, Nat.mod_zero]
    repeat' split
    all_goals omega
  rcases Nat.lt_or_ge (m / d) (n / d) with hlt | hge
  · exact Nat.le_trans (divEven_le_succ m d) (Nat.le_trans hlt (div_le_divEven n d))
  · have hq : m / d = n / d := Nat.le_antisymm (Nat.div_le_div_right h) hge
    have hm := Nat.div_add_mod m d
    have hn := Nat.div_add_mod n d
    have hr : m % d ≤ n % d := by rw [hq] at hm; omega
    unfold divEven
    rw [hq]
    repeat' split
    all_goals omega

end ClusterGuard
