import ClusterGuard.Number.Binary

/-!
# The shortest decimal that reads back

A positive finite code `c` stands for every real that rounds to it: the interval between the
midpoints to its neighbours, ends included when `c` is even. `shortest` searches the decimal grids
from the coarsest to finer ones and takes the first on which one of the two points around the
value lies in that interval. Of two such points the nearer wins, and an exact tie goes up.

Everything is kept whole: lengths are measured in units of `2 ^ (-(least + 1)) · 10 ^ (-least)`.
-/

namespace ClusterGuard

/-- A decimal magnitude `digits · 10 ^ exponent`. -/
structure Decimal where
  digits : Nat
  exponent : Int
deriving DecidableEq

namespace Format

/-- The reals that round to one code, and the value itself, all scaled to whole numbers; `unit`
is the scaled length of the finest decimal grid. -/
structure Cell where
  low : Nat
  value : Nat
  high : Nat
  closed : Bool
  unit : Nat

/-- The interval of reals that round to `code`. -/
def cell (f : Format) (code : Nat) : Cell :=
  let scale := Nat.pow 10 f.least
  { low := (f.units (code - 1) + f.units code) * scale
    value := 2 * f.units code * scale
    high := (f.units code + f.units (code + 1)) * scale
    closed := code % 2 == 0
    unit := 1 <<< (f.least + 1) }

/-- Whether the scaled length `x` rounds to the code of the cell. -/
def Cell.holds (c : Cell) (x : Nat) : Bool :=
  if c.closed then c.low ≤ x && x ≤ c.high else c.low < x && x < c.high

/-- The better of the two points around the value on the grid with steps of `10 ^ j` units. -/
def Cell.onGrid? (c : Cell) (j : Nat) : Option Nat :=
  let step := Nat.pow 10 j * c.unit
  let below := c.value / step
  let down := c.holds (below * step)
  let up := c.holds ((below + 1) * step)
  if down && (!up || c.value - below * step < (below + 1) * step - c.value) then some below
  else if up then some (below + 1)
  else none

/-- The first grid with a point in the cell, from steps of `10 ^ j` downwards. -/
def Cell.search (c : Cell) : Nat → Nat × Nat
  | 0 => ((c.onGrid? 0).getD (c.value / c.unit), 0)
  | j + 1 =>
    match c.onGrid? (j + 1) with
    | some digits => (digits, j + 1)
    | none => c.search j

/-- The decimal with the fewest digits that reads back as `code`, nearest to its value. -/
def shortest (f : Format) (code : Nat) : Decimal :=
  let c := f.cell code
  let (digits, j) := c.search (Nat.toDigits 10 (c.value / c.unit)).length
  ⟨digits, (j : Int) - f.least⟩

end Format

end ClusterGuard
