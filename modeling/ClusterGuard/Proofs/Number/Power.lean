import ClusterGuard.Proofs.Number.Percent
import Mathlib.Data.Nat.EvenOddRec
import Mathlib.Tactic.Linarith

/-!
# The order of powers

Repeated squaring multiplies other numbers for `x ^ (n + 1)` than for `x ^ n`, and every product is
rounded, so that neighbouring powers are not one product apart. They are in order all the same. Up
to the lowest zero of `n` in binary both start anew from the low bits: the ones of `n` have given a
product that is on the near side of the square that `n + 1` starts from, and all that follows are
products with the same numbers. `product` and `power` are the operations on the codes of numbers
that are not negative, where nothing is `nan`.

Results:
* `product_mono`, `one_product`: products keep the order, and one is neutral in them.
* **`product_le_of_lt_one`**: a factor below one takes every number down that is not very small.
* `powerFrom_succ_related`: the step from `n` to `n + 1`, for the order and for its reverse.
* **`power_mono`**, **`power_anti`**: powers of a number that is not below one grow with the
  exponent, and those of a number that is not above one fall.
* `Binary.pow_signed`: the power of a positive number has the code that `power` says.
-/

namespace ClusterGuard

namespace Format

variable {f : Format} {n r r' x x' y y' : Nat}

/-- The code of the product of two numbers that are not negative. What is multiplied by infinity
counts as infinite, and be it zero. -/
def product (f : Format) (x y : Nat) : Nat :=
  if f.top ≤ x ∨ f.top ≤ y then f.top else f.nearest (f.units x * f.units y) (2 ^ f.least)

/-- The code of `r · x ^ n`, one bit of `n` at a time from the lowest, each product rounded. -/
def powerFrom (f : Format) (r x : Nat) : Nat → Nat
  | 0 => r
  | n + 1 =>
    powerFrom f (if (n + 1) % 2 = 1 then f.product r x else r) (f.product x x) ((n + 1) / 2)
termination_by n => n
decreasing_by omega

/-- The code of `x ^ n`. -/
def power (f : Format) (x n : Nat) : Nat := f.powerFrom (f.ofWhole 1) x n

/-! ## Products -/

theorem product_le_top (f : Format) (x y : Nat) : f.product x y ≤ f.top := by
  unfold product
  split
  · exact Nat.le_refl _
  · exact nearest_le_top ..

/-- A product grows with its factors. -/
theorem product_mono (hx : x ≤ x') (hy : y ≤ y') : f.product x y ≤ f.product x' y' := by
  by_cases h : f.top ≤ x' ∨ f.top ≤ y'
  · rw [product, product, if_pos h]
    exact product_le_top f x y
  · have h' : ¬(f.top ≤ x ∨ f.top ≤ y) := by omega
    rw [product, product, if_neg h, if_neg h']
    exact nearest_mono (Nat.mul_le_mul (units_mono f hx) (units_mono f hy)) _

theorem zero_product (hx : x < f.top) : f.product 0 x = 0 := by
  have htop : ¬(f.top ≤ 0 ∨ f.top ≤ x) := by omega
  rw [product, if_neg htop, units_zero, Nat.zero_mul, nearest_zero]

theorem product_top (f : Format) (x : Nat) : f.product x f.top = f.top :=
  if_pos (.inr (Nat.le_refl _))

section One

variable (hone : f.ofWhole 1 < f.top)

include hone

theorem ofWhole_one_pos : 0 < f.ofWhole 1 :=
  nearest_pos (Nat.mul_pos Nat.one_pos (Nat.two_pow_pos _)) (Nat.zero_lt_of_lt hone)

theorem units_ofWhole_one : f.units (f.ofWhole 1) = 2 ^ f.least := by
  have hcode : f.ofWhole 1 = f.nearest (1 * 2 ^ f.least) 1 := rfl
  rw [hcode] at hone ⊢
  rw [units_nearest_of_fits (Nat.one_lt_two_pow' _) hone, Nat.one_mul]

theorem one_product (hx : x ≤ f.top) : f.product (f.ofWhole 1) x = x := by
  unfold product
  split
  · omega
  · have hscale := nearest_mul_right f (f.units x) 1 (Nat.two_pow_pos f.least)
    rw [Nat.one_mul] at hscale
    rw [units_ofWhole_one hone, Nat.mul_comm, hscale, nearest_units hx]

theorem one_le_product (hx : f.ofWhole 1 ≤ x) (hy : f.ofWhole 1 ≤ y) :
    f.ofWhole 1 ≤ f.product x y := by
  have hle := product_mono (f := f) hx hy
  rwa [one_product hone (Nat.le_of_lt hone)] at hle

theorem product_le_one (hx : x ≤ f.ofWhole 1) (hy : y ≤ f.ofWhole 1) :
    f.product x y ≤ f.ofWhole 1 := by
  have hle := product_mono (f := f) hx hy
  rwa [one_product hone (Nat.le_of_lt hone)] at hle

/-- A number below one is below it by at least half a unit in its last place. -/
theorem mul_units_add_le (h : x < f.ofWhole 1) :
    2 ^ (f.fraction + 1) * f.units x + 2 ^ f.least ≤ 2 ^ (f.fraction + 1) * 2 ^ f.least := by
  have hnext : f.units (x + 1) ≤ 2 ^ f.least :=
    units_ofWhole_one hone ▸ units_mono f (Nat.succ_le_of_lt h)
  obtain ⟨B, s, rfl, hs, hB⟩ := exists_code f x
  rw [units_succ hs hB] at hnext
  rw [units_code (Nat.le_of_lt hs) hB] at hnext ⊢
  obtain ⟨k, hk⟩ := Nat.exists_eq_succ_of_ne_zero (Nat.ne_of_gt (Nat.zero_lt_of_lt hs))
  rw [hk] at hs ⊢
  have hlast : s * 2 ^ B ≤ k * 2 ^ B := Nat.mul_le_mul_right _ (Nat.le_of_lt_succ hs)
  have hscale := Nat.mul_le_mul_left k hnext
  linarith

/-- **A factor below one takes a number down**, unless the number is so small that it has fewer bits
than a significand. -/
theorem product_le_of_lt_one (hx : x < f.ofWhole 1) (hy : 2 ^ f.fraction ≤ y)
    (htop : y + 1 < f.top) : f.product x (y + 1) ≤ y := by
  have hfinite : ¬(f.top ≤ x ∨ f.top ≤ y + 1) := by omega
  have hfactor := mul_units_add_le hone hx
  rw [product, if_neg hfinite]
  refine Nat.le_of_not_lt fun hlt => ?_
  have hmiddle := middle_le (Nat.two_pow_pos _) hlt
  obtain ⟨B, s, rfl, hs, hB⟩ := exists_code f y
  have hbits : 2 ^ f.fraction ≤ s := by
    rcases hB with rfl | hle
    · omega
    · exact hle
  rw [units_succ hs hB, units_code (Nat.le_of_lt hs) hB] at hmiddle
  rw [Nat.pow_succ] at hfactor
  -- Twice the number would be at most as many units in its last place as a significand counts.
  have hlow : 2 * (2 ^ f.least * (s * 2 ^ B + 2 ^ B))
      ≤ 2 ^ f.fraction * 2 * (2 ^ f.least * 2 ^ B) := by
    have hscaled := Nat.mul_le_mul_left (2 ^ f.fraction * 2) hmiddle
    have hfactored := Nat.mul_le_mul_right (2 * (s * 2 ^ B + 2 ^ B)) hfactor
    linarith
  have hhigh := Nat.mul_le_mul_right (2 * (2 ^ f.least * 2 ^ B)) hbits
  have hpos : 0 < 2 ^ f.least * 2 ^ B := Nat.mul_pos (Nat.two_pow_pos _) (Nat.two_pow_pos _)
  linarith

end One

/-! ## Repeated squaring -/

theorem powerFrom_even (f : Format) (r x n : Nat) :
    f.powerFrom r x (2 * n) = f.powerFrom r (f.product x x) n := by
  cases n with
  | zero => simp [powerFrom]
  | succ n =>
    have heven : (2 * n + 1 + 1) % 2 ≠ 1 := by omega
    have hhalf : (2 * n + 1 + 1) / 2 = n + 1 := by omega
    rw [Nat.mul_add, powerFrom, if_neg heven, hhalf]

theorem powerFrom_odd (f : Format) (r x n : Nat) :
    f.powerFrom r x (2 * n + 1) = f.powerFrom (f.product r x) (f.product x x) n := by
  have hodd : (2 * n + 1) % 2 = 1 := by omega
  have hhalf : (2 * n + 1) / 2 = n := by omega
  rw [powerFrom, if_pos hodd, hhalf]

theorem powerFrom_le_top (hr : r ≤ f.top) (x n : Nat) : f.powerFrom r x n ≤ f.top := by
  induction n using Nat.evenOddRec generalizing r x with
  | h0 => simpa [powerFrom] using hr
  | h_even n ih =>
    rw [powerFrom_even]
    exact ih hr _
  | h_odd n ih =>
    rw [powerFrom_odd]
    exact ih (product_le_top ..) _

section Related

/-! What follows holds of any relation that products keep. It is used for `≤` and for `≥`. -/

variable {R : Nat → Nat → Prop} (hrefl : ∀ a, R a a)
  (hmul : ∀ {a b a' b'}, R a a' → R b b' → R (f.product a b) (f.product a' b'))

include hrefl hmul

theorem powerFrom_related (h : R r r') (x n : Nat) :
    R (f.powerFrom r x n) (f.powerFrom r' x n) := by
  induction n using Nat.evenOddRec generalizing r r' x with
  | h0 => simpa [powerFrom] using h
  | h_even n ih =>
    rw [powerFrom_even, powerFrom_even]
    exact ih h _
  | h_odd n ih =>
    rw [powerFrom_odd, powerFrom_odd]
    exact ih (hmul h (hrefl x)) _

/-- **One more factor.** What the low bits of `n` have given so far is related to the square that
`n + 1` has come to, as long as all of them were ones. -/
theorem powerFrom_succ_related (hone : f.ofWhole 1 < f.top) (hx : x ≤ f.top) (h : R r x)
    (n : Nat) : R (f.powerFrom r x n) (f.power x (n + 1)) := by
  unfold power
  induction n using Nat.evenOddRec generalizing r x with
  | h0 => simpa [powerFrom, one_product hone hx] using h
  | h_even n ih =>
    -- The lowest zero of `n`: from here on both multiply by the same squares.
    rw [powerFrom_even, powerFrom_odd, one_product hone hx]
    exact powerFrom_related hrefl hmul h _ n
  | h_odd n ih =>
    have hnext : 2 * n + 1 + 1 = 2 * (n + 1) := by omega
    rw [powerFrom_odd, hnext, powerFrom_even]
    exact ih (product_le_top ..) (hmul h (hrefl x))

end Related

section One

variable (hone : f.ofWhole 1 < f.top)

include hone

theorem power_le_top (x n : Nat) : f.power x n ≤ f.top :=
  powerFrom_le_top (Nat.le_of_lt hone) x n

/-- **Powers of a number that is not below one grow with the exponent.** -/
theorem power_mono (hx : x ≤ f.top) (h : f.ofWhole 1 ≤ x) : Monotone (f.power x) :=
  monotone_nat_of_le_succ fun n =>
    powerFrom_succ_related Nat.le_refl product_mono hone hx h n

/-- **Powers of a number that is not above one fall with the exponent.** -/
theorem power_anti (h : x ≤ f.ofWhole 1) : Antitone (f.power x) := by
  have hx : x ≤ f.top := Nat.le_trans h (Nat.le_of_lt hone)
  refine antitone_nat_of_succ_le fun n => ?_
  exact powerFrom_succ_related (R := (· ≥ ·)) Nat.le_refl product_mono hone hx h n

theorem power_le_one (h : x ≤ f.ofWhole 1) (n : Nat) : f.power x n ≤ f.ofWhole 1 := by
  have hle : f.power x n ≤ f.power x 0 := power_anti hone h (Nat.zero_le n)
  simpa [power, powerFrom] using hle

end One

/-- Two numbers on one side of one: nothing that is multiplied out of them is `nan`. -/
def OneSided (f : Format) (x y : Nat) : Prop :=
  (f.ofWhole 1 ≤ x ∧ f.ofWhole 1 ≤ y) ∨ (x ≤ f.ofWhole 1 ∧ y ≤ f.ofWhole 1)

theorem oneSided_one (f : Format) (x : Nat) : f.OneSided (f.ofWhole 1) x := by
  rcases Nat.le_total (f.ofWhole 1) x with hle | hle
  · exact .inl ⟨Nat.le_refl _, hle⟩
  · exact .inr ⟨Nat.le_refl _, hle⟩

theorem OneSided.right (h : f.OneSided x y) : f.OneSided y y :=
  h.imp (fun hle => ⟨hle.2, hle.2⟩) fun hle => ⟨hle.2, hle.2⟩

theorem OneSided.square (hone : f.ofWhole 1 < f.top) (h : f.OneSided x y) :
    f.OneSided x (f.product y y) :=
  h.imp (fun hle => ⟨hle.1, one_le_product hone hle.2 hle.2⟩)
    fun hle => ⟨hle.1, product_le_one hone hle.2 hle.2⟩

theorem OneSided.product (hone : f.ofWhole 1 < f.top) (h : f.OneSided x y) :
    f.OneSided (f.product x y) (f.product y y) :=
  h.imp (fun hle => ⟨one_le_product hone hle.1 hle.2, one_le_product hone hle.2 hle.2⟩)
    fun hle => ⟨product_le_one hone hle.1 hle.2, product_le_one hone hle.2 hle.2⟩

end Format

namespace Binary

variable {f : Format} {r x y : Nat}

/-- A product that is not one of zero and infinity is a number. -/
theorem mul_eq_product (hx : x ≤ f.top) (hy : y ≤ f.top)
    (h : ¬((x = f.top ∧ y = 0) ∨ (x = 0 ∧ y = f.top))) :
    (signed false x hx).mul (signed false y hy)
      = .signed false (f.product x y) (f.product_le_top x y) := by
  have hx' : f.top ≤ x ↔ x = f.top := ⟨Nat.le_antisymm hx, Nat.le_of_eq ∘ Eq.symm⟩
  have hy' : f.top ≤ y ↔ y = f.top := ⟨Nat.le_antisymm hy, Nat.le_of_eq ∘ Eq.symm⟩
  unfold mul Format.product
  simp only [if_neg h, hx', hy', Bool.xor_self, Nat.shiftLeft_eq, Nat.one_mul]
  by_cases htop : x = f.top ∨ y = f.top
  · simp only [if_pos htop, infinity]
  · simp only [if_neg htop, ofUnits]

theorem mul_of_oneSided (hone : f.ofWhole 1 < f.top) (hx : x ≤ f.top) (hy : y ≤ f.top)
    (h : f.OneSided x y) :
    (signed false x hx).mul (signed false y hy)
      = .signed false (f.product x y) (f.product_le_top x y) := by
  have hpos := Format.ofWhole_one_pos hone
  refine mul_eq_product hx hy ?_
  rcases h with ⟨h, h'⟩ | ⟨h, h'⟩ <;> omega

theorem mulPow_even (r x : Binary f) (n : Nat) : mulPow r x (2 * n) = mulPow r (x.mul x) n := by
  cases n with
  | zero => simp [mulPow]
  | succ n =>
    have hge : ¬2 * (n + 1) < 2 := by omega
    have heven : 2 * (n + 1) % 2 ≠ 1 := by omega
    have hhalf : 2 * (n + 1) / 2 = n + 1 := by omega
    rw [mulPow, if_neg hge, if_neg heven, hhalf]

theorem mulPow_odd (r x : Binary f) (n : Nat) :
    mulPow r x (2 * n + 1) = mulPow (r.mul x) (x.mul x) n := by
  cases n with
  | zero => simp [mulPow]
  | succ n =>
    have hge : ¬2 * (n + 1) + 1 < 2 := by omega
    have hodd : (2 * (n + 1) + 1) % 2 = 1 := by omega
    have hhalf : (2 * (n + 1) + 1) / 2 = n + 1 := by omega
    rw [mulPow, if_neg hge, if_pos hodd, hhalf]

/-- Repeated squaring of numbers is repeated squaring of their codes. -/
theorem mulPow_signed (hone : f.ofWhole 1 < f.top) (hr : r ≤ f.top) (hx : x ≤ f.top)
    (h : f.OneSided r x) (n : Nat) :
    mulPow (.signed false r hr) (.signed false x hx) n
      = .signed false (f.powerFrom r x n) (Format.powerFrom_le_top hr x n) := by
  induction n using Nat.evenOddRec generalizing r x with
  | h0 => simp [mulPow, Format.powerFrom]
  | h_even n ih =>
    simp only [mulPow_even, Format.powerFrom_even, mul_of_oneSided hone hx hx h.right]
    exact ih hr _ (h.square hone)
  | h_odd n ih =>
    simp only [mulPow_odd, Format.powerFrom_odd, mul_of_oneSided hone hx hx h.right,
      mul_of_oneSided hone hr hx h]
    exact ih _ _ (h.product hone)

/-- The power of a number that is not negative. -/
theorem pow_signed (hone : f.ofWhole 1 < f.top) (hx : x ≤ f.top) (n : Nat) :
    (signed false x hx).pow n = .signed false (f.power x n) (Format.power_le_top hone x n) := by
  unfold pow
  rw [ofNat_eq]
  exact mulPow_signed hone _ hx (Format.oneSided_one f x) n

end Binary

end ClusterGuard
