import ClusterGuard.Number.Shortest
import ClusterGuard.Text.Digits

/-!
# Floating-point numbers as text

Model of the `Display` form (`plain`) and of the `Debug` form (`debug`) of numbers.

A `NumberStyle` says how a number is laid out; its digits are always the shortest that read back.
`plain` never uses an exponent and writes no fraction for whole numbers. `debug` keeps one decimal
and writes very large and very small magnitudes with an exponent.
-/

namespace ClusterGuard

/-- How a number is laid out. -/
structure NumberStyle where
  /-- Whether a whole number written positionally keeps `.0`. -/
  keepsPoint : Bool
  /-- The exponents of the leading digit for which the number is written positionally; all of
  them when absent. -/
  positional : Option (Int × Int)

namespace NumberStyle

/-- Positional always, whole numbers without a point. -/
def plain : NumberStyle := ⟨false, none⟩

/-- Positional from `1e-4` up to but not including `1e16`, at least one decimal. -/
def debug : NumberStyle := ⟨true, some (-4, 15)⟩

/-- Whether a leading digit with this exponent is written positionally. -/
def isPositional (s : NumberStyle) (lead : Int) : Bool :=
  match s.positional with
  | none => true
  | some (lo, hi) => lo ≤ lead && lead ≤ hi

end NumberStyle

namespace Decimal

/-- Positional text: the point is written where it falls, with zeros up to it. -/
def positional (d : Decimal) (keepsPoint : Bool) : String :=
  let ds := decimalDigits d.digits
  let whole : Int := ds.length + d.exponent
  if whole ≤ 0 then
    String.ofList ('0' :: '.' :: List.replicate (-whole).toNat '0' ++ ds)
  else if d.exponent < 0 then
    String.ofList (ds.take whole.toNat ++ '.' :: ds.drop whole.toNat)
  else
    String.ofList (ds ++ List.replicate d.exponent.toNat '0' ++ if keepsPoint then ['.', '0'] else [])

/-- Text with an exponent: one digit, the point if more follow, and the power of ten. -/
def scientific (d : Decimal) : String :=
  let ds := decimalDigits d.digits
  let lead : Int := ds.length - 1 + d.exponent
  let tail := ds.drop 1
  String.ofList (ds.take 1 ++ (if tail.isEmpty then [] else '.' :: tail)) ++ "e" ++ toString lead

/-- The text of a decimal in a style. -/
def text (d : Decimal) (s : NumberStyle) : String :=
  if s.isPositional ((decimalDigits d.digits).length - 1 + d.exponent) then
    d.positional s.keepsPoint
  else d.scientific

end Decimal

namespace Binary

variable {f : Format}

/-- The text of a number in a style. -/
def text (s : NumberStyle) : Binary f → String
  | .nan => "NaN"
  | .signed negative code _ =>
    (if negative then "-" else "") ++
      if code = f.top then "inf"
      else if code = 0 then (if s.keepsPoint then "0.0" else "0")
      else (f.shortest code).text s

/-- The interchange encoding in lower-case hexadecimal, padded to the width of the format. -/
def hex (x : Binary f) : String :=
  String.ofList (padded (hexDigits (2 * f.signBit - 1)).length (hexDigits x.toBits))

end Binary

end ClusterGuard
