import ClusterGuard.Number.Binary

/-!
# Durations

Model of `Duration` and `Instant`: `as_secs_f64` is `toSeconds`, `from_secs_f64` is `ofSeconds?`,
which is absent where that stops the program.

A duration is a number of nanoseconds, at most `2 ^ 64 - 1` seconds and `999 999 999` nanoseconds.
Instants are durations since the moment time began. Sums saturate at the longest duration and
differences stop at zero.

Results:
* `ext_nanos`: durations are equal when they hold the same number of nanoseconds.
* `nanos_add`, `nanos_sub`: what the two operations do to the number of nanoseconds.
-/

namespace ClusterGuard

/-- The number of nanoseconds in a second. -/
def nanosPerSecond : Nat := 1000000000

/-- The number of nanoseconds in the longest duration. -/
def maxNanos : Nat := UInt64.size * nanosPerSecond - 1

/-- A length of time with a resolution of one nanosecond. -/
structure Duration where
  nanos : Nat
  le_max : nanos ≤ maxNanos := by decide
deriving DecidableEq

/-- A point in time, as the duration since time began. -/
abbrev Instant := Duration

namespace Duration

theorem ext_nanos {a b : Duration} (h : a.nanos = b.nanos) : a = b := by
  cases a; cases b; cases h; rfl

/-- The duration of `n` nanoseconds, or the longest one. -/
def saturating (n : Nat) : Duration := ⟨min maxNanos n, Nat.min_le_left ..⟩

/-- No time at all. -/
def zero : Duration := ⟨0, Nat.zero_le _⟩

/-- The longest duration. -/
def longest : Duration := ⟨maxNanos, Nat.le_refl _⟩

/-- `n` whole milliseconds. -/
def ofMillis (n : Nat) : Duration := saturating (n * 1000000)

/-- `n` whole seconds. -/
def ofSeconds (n : Nat) : Duration := saturating (n * nanosPerSecond)

/-- `seconds` seconds and `nanos` nanoseconds. -/
def ofParts (seconds nanos : Nat) : Duration := saturating (seconds * nanosPerSecond + nanos)

/-- The whole seconds of a duration. -/
def seconds (d : Duration) : Nat := d.nanos / nanosPerSecond

/-- The nanoseconds beyond the whole seconds. -/
def subsecond (d : Duration) : Nat := d.nanos % nanosPerSecond

/-- The whole milliseconds of a duration. -/
def millis (d : Duration) : Nat := d.nanos / 1000000

/-- Whether no time passes. -/
def isZero (d : Duration) : Bool := d.nanos == 0

instance : Inhabited Duration := ⟨zero⟩

instance : Add Duration := ⟨fun a b => saturating (a.nanos + b.nanos)⟩

instance : Sub Duration :=
  ⟨fun a b => ⟨a.nanos - b.nanos, Nat.le_trans (Nat.sub_le ..) a.le_max⟩⟩

instance : LE Duration := ⟨fun a b => a.nanos ≤ b.nanos⟩

instance : LT Duration := ⟨fun a b => a.nanos < b.nanos⟩

instance (a b : Duration) : Decidable (a ≤ b) := inferInstanceAs (Decidable (a.nanos ≤ b.nanos))

instance (a b : Duration) : Decidable (a < b) := inferInstanceAs (Decidable (a.nanos < b.nanos))

theorem le_iff {a b : Duration} : a ≤ b ↔ a.nanos ≤ b.nanos := Iff.rfl

theorem lt_iff {a b : Duration} : a < b ↔ a.nanos < b.nanos := Iff.rfl

theorem nanos_add (a b : Duration) : (a + b).nanos = min maxNanos (a.nanos + b.nanos) := rfl

theorem nanos_sub (a b : Duration) : (a - b).nanos = a.nanos - b.nanos := rfl

/-- The number of seconds as a 64-bit float: the whole seconds, plus the rounded quotient of the
remaining nanoseconds. -/
def toSeconds (d : Duration) : Binary .double :=
  (Binary.ofNat .double d.seconds).add
    ((Binary.ofNat .double d.subsecond).div (Binary.ofNat .double nanosPerSecond))

/-- The duration nearest to a number of seconds, a half nanosecond going to the even one. There
is none for a negative or too large number of seconds, nor for `nan`. -/
def ofSeconds? : Binary .double → Option Duration
  | .nan => none
  | .signed negative code _ =>
    let n := divEven (Format.double.units code * nanosPerSecond) (1 <<< Format.double.least)
    if h : n ≤ maxNanos then if negative && code != 0 then none else some ⟨n, h⟩ else none

end Duration

end ClusterGuard
