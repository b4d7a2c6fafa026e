import ClusterGuard.Text.Digits
import ClusterGuard.Text.Split

/-!
# Sets of characters

A set of characters is a list of ranges. It is written with the numbers of the characters in
hexadecimal: `3b1-3c9` is a range, `b5` a single character, and blanks stand between the ranges.
-/

namespace ClusterGuard

/-- The number that hexadecimal digits stand for. -/
def hexNumber (ds : List Char) : Nat := (readDigits? 16 ds).getD 0

/-- A set of characters, as ranges of their numbers. -/
structure CharSet where
  ranges : List (Nat × Nat)

namespace CharSet

/-- The range that a word stands for. -/
def range? (word : List Char) : Option (Nat × Nat) :=
  match splitAt '-' word with
  | [n] => some (hexNumber n, hexNumber n)
  | [first, last] => some (hexNumber first, hexNumber last)
  | _ => none

/-- The set that a text stands for. -/
def ofText (text : String) : CharSet := ⟨(words text.toList).filterMap range?⟩

/-- Whether a character is in a set. -/
def has (s : CharSet) (c : Char) : Bool :=
  s.ranges.any fun (first, last) => first ≤ c.toNat && c.toNat ≤ last

instance : Membership Char CharSet := ⟨fun s c => s.has c = true⟩

instance (s : CharSet) (c : Char) : Decidable (c ∈ s) :=
  inferInstanceAs (Decidable (s.has c = true))

end CharSet

end ClusterGuard
