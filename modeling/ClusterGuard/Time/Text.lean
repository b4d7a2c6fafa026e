import ClusterGuard.Text.Digits
import ClusterGuard.Text.Split
import ClusterGuard.Time.Duration

/-!
# Durations as text

Model of the `Debug` form of a `Duration`.

A duration is written in the largest of seconds, milliseconds, microseconds and nanoseconds in
which it is at least one, with the decimals it needs and no trailing zeros. Its exact form is the
whole seconds, a point, and the nanoseconds as a number of nine digits.
-/

namespace ClusterGuard

namespace Duration

/-- `n / 10 ^ places` in decimal notation without trailing zeros. -/
def decimalText (n places : Nat) : String :=
  let scale := Nat.pow 10 places
  let decimals := (padded places (decimalDigits (n % scale))).reverse.dropWhile (· == '0')
  toString (n / scale) ++ (if n % scale = 0 then "" else "." ++ String.ofList decimals.reverse)

/-- The text of a duration in messages, such as `1.5s` or `50ms`. -/
def text (d : Duration) : String :=
  if nanosPerSecond ≤ d.nanos then decimalText d.nanos 9 ++ "s"
  else if 1000000 ≤ d.nanos then decimalText d.nanos 6 ++ "ms"
  else if 1000 ≤ d.nanos then decimalText d.nanos 3 ++ "µs"
  else toString d.nanos ++ "ns"

/-- The exact form of a duration. -/
def exactText (d : Duration) : String :=
  toString d.seconds ++ "." ++ String.ofList (padded 9 (decimalDigits d.subsecond))

/-- The duration of an exact form; the nanoseconds may be written with fewer digits. -/
def ofExact? (text : String) : Option Duration :=
  match splitAt '.' text.toList with
  | [seconds, nanos] => do
    guard (!seconds.isEmpty && !nanos.isEmpty)
    return ofParts (← readDigits? 10 seconds) (← readDigits? 10 nanos)
  | _ => none

end Duration

end ClusterGuard
