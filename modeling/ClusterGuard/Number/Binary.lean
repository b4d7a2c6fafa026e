import ClusterGuard.Number.Rounding

/-!
# Binary floating-point numbers

Model of the 32-bit (`single`) and 64-bit (`double`) floating-point numbers of `failure_rate` and
`calculate_delay`; `powi` is `pow`.

A number of a `Format` is `nan`, or a sign and a *code*. Codes number the magnitudes from zero
upwards, so that two magnitudes compare as their codes do; the last code, `top`, is infinity.
`Format.units` is the exact magnitude of a code, counted in the least positive magnitude of the
format, and `Format.nearest` is the code closest to an exact quotient of such units. Every
operation computes its exact result as a quotient of natural numbers and rounds it once.

Results:
* `units_zero`, `nearest_zero`: zero is code `0`.
* `nearest_le_top`: rounding never leaves the format; what is too large becomes infinite.
-/

namespace ClusterGuard

/-- A binary interchange format. -/
structure Format where
  /-- Number of stored significand bits. -/
  fraction : Nat
  /-- The least positive magnitude is `2 ^ (-least)`. -/
  least : Nat
  /-- The code of infinity. -/
  top : Nat
deriving DecidableEq

namespace Format

/-- The 32-bit format. -/
def single : Format := ⟨23, 149, 255 <<< 23⟩

/-- The 64-bit format. -/
def double : Format := ⟨52, 1074, 2047 <<< 52⟩

/-- The magnitude of a code, in units of `2 ^ (-least)`. -/
def units (f : Format) (code : Nat) : Nat :=
  if code >>> f.fraction = 0 then code
  else (1 <<< f.fraction + code % 1 <<< f.fraction) <<< (code >>> f.fraction - 1)

/-- How many binades above the finest one the whole number `q` of units lies. -/
def binade (f : Format) (q : Nat) : Nat := q.log2 - f.fraction

/-- The code nearest to `n / d` units; a half goes to the even code. -/
def nearest (f : Format) (n d : Nat) : Nat :=
  min f.top (f.binade (n / d) <<< f.fraction + divEven n (d <<< f.binade (n / d)))

/-- The weight of the sign in the interchange encoding. -/
def signBit (f : Format) : Nat := f.top + 1 <<< f.fraction

theorem units_zero (f : Format) : f.units 0 = 0 := by simp [units]

theorem nearest_le_top (f : Format) (n d : Nat) : f.nearest n d ≤ f.top := Nat.min_le_left ..

theorem nearest_zero (f : Format) (d : Nat) : f.nearest 0 d = 0 := by
  simp [nearest, binade, divEven]

end Format

/-- A floating-point number: `nan`, or a sign and the code of a magnitude. -/
inductive Binary (f : Format) where
  | nan
  | signed (negative : Bool) (code : Nat) (le_top : code ≤ f.top)
deriving DecidableEq

namespace Binary

variable {f : Format}

/-- The number nearest to `n / d` units of the format, with the given sign. -/
def ofUnits (f : Format) (negative : Bool) (n d : Nat) : Binary f :=
  .signed negative (f.nearest n d) (f.nearest_le_top n d)

/-- Zero with a sign. -/
def zero (negative : Bool) : Binary f := .signed negative 0 (Nat.zero_le _)

/-- Infinity with a sign. -/
def infinity (negative : Bool) : Binary f := .signed negative f.top (Nat.le_refl _)

/-- The number nearest to `n`. -/
def ofNat (f : Format) (n : Nat) : Binary f := ofUnits f false (n <<< f.least) 1

/-- The number nearest to `± digits · 10 ^ exponent`. Exponents that cannot matter are not
computed: beyond `least` the magnitude is infinite or rounds to zero. -/
def ofDecimal (f : Format) (negative : Bool) (digits : Nat) (exponent : Int) : Binary f :=
  if digits = 0 then zero negative
  else if (f.least : Int) < exponent then infinity negative
  else if exponent + digits.log2 + 1 < -(f.least : Int) then zero negative
  else if 0 ≤ exponent then ofUnits f negative ((digits * Nat.pow 10 exponent.toNat) <<< f.least) 1
  else ofUnits f negative (digits <<< f.least) (Nat.pow 10 (-exponent).toNat)

/-- Whether the number is neither `nan` nor infinite. -/
def isFinite : Binary f → Bool
  | .nan => false
  | .signed _ code _ => code < f.top

/-- The place of a number in the order; both zeros have the same place. -/
def place? : Binary f → Option Int
  | .nan => none
  | .signed negative code _ => some (if negative then -code else code)

/-- `a < b`; false when either is `nan`. -/
def lt (a b : Binary f) : Bool :=
  match a.place?, b.place? with
  | some i, some j => i < j
  | _, _ => false

/-- `a ≤ b`; false when either is `nan`. -/
def le (a b : Binary f) : Bool :=
  match a.place?, b.place? with
  | some i, some j => i ≤ j
  | _, _ => false

/-- The exact value of a finite number in units of `2 ^ (-least)`; infinity counts as the power
of two that follows the largest finite magnitude. -/
def signedUnits : Binary f → Int
  | .nan => 0
  | .signed negative code _ => if negative then -(f.units code) else f.units code

/-- The sum, rounded once. -/
def add (a b : Binary f) : Binary f :=
  match a, b with
  | .nan, _ | _, .nan => .nan
  | .signed s x _, .signed t y _ =>
    if x = f.top ∧ y = f.top then if s = t then a else .nan
    else if x = f.top then a
    else if y = f.top then b
    else
      let sum := a.signedUnits + b.signedUnits
      ofUnits f (sum < 0 || (sum == 0 && s && t)) sum.natAbs 1

/-- The product, rounded once. -/
def mul (a b : Binary f) : Binary f :=
  match a, b with
  | .nan, _ | _, .nan => .nan
  | .signed s x _, .signed t y _ =>
    if (x = f.top ∧ y = 0) ∨ (x = 0 ∧ y = f.top) then .nan
    else if x = f.top ∨ y = f.top then infinity (s ^^ t)
    else ofUnits f (s ^^ t) (f.units x * f.units y) (1 <<< f.least)

/-- The quotient, rounded once. -/
def div (a b : Binary f) : Binary f :=
  match a, b with
  | .nan, _ | _, .nan => .nan
  | .signed s x _, .signed t y _ =>
    if (x = 0 ∧ y = 0) ∨ (x = f.top ∧ y = f.top) then .nan
    else if x = f.top ∨ y = 0 then infinity (s ^^ t)
    else if y = f.top then zero (s ^^ t)
    else ofUnits f (s ^^ t) (f.units x <<< f.least) (f.units y)

/-- `r · x ^ n`, one bit of `n` at a time from the lowest, each product rounded. -/
def mulPow (r x : Binary f) (n : Nat) : Binary f :=
  if n < 2 then if n = 1 then r.mul x else r
  else mulPow (if n % 2 = 1 then r.mul x else r) (x.mul x) (n / 2)
termination_by n
decreasing_by omega

/-- `x ^ n` by repeated squaring, each product rounded. -/
def pow (x : Binary f) (n : Nat) : Binary f := mulPow (ofNat f 1) x n

/-- The same number in another format, rounded once. -/
def convert (g : Format) : Binary f → Binary g
  | .nan => .nan
  | .signed negative code _ =>
    if code = f.top then infinity negative
    else ofUnits g negative (f.units code <<< g.least) (1 <<< f.least)

/-- The interchange encoding. -/
def toBits : Binary f → Nat
  | .nan => f.top + 1 <<< (f.fraction - 1)
  | .signed negative code _ => if negative then f.signBit + code else code

end Binary

end ClusterGuard
