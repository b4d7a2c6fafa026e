import ClusterGuard.Text.Digits
import ClusterGuard.Time.Duration

/-!
# Durations in documents: whole milliseconds

Model of `duration_millis`: `serialize` is `toDocument`, `deserialize` is `ofDocument?`.

Documents hold a duration as a whole number of milliseconds below `2 ^ 64`. Writing drops what is
below a millisecond and saturates. Reading takes a plain JSON whole number: no sign, no fraction,
no exponent, no leading zero, blanks allowed around it.
-/

namespace ClusterGuard

/-- The largest number of milliseconds a document can hold. -/
def maxMillis : Nat := UInt64.size - 1

namespace Duration

/-- The number of milliseconds written for a duration. -/
def toDocument (d : Duration) : Nat := min maxMillis d.millis

/-- The duration of a number of milliseconds read from a document. -/
def ofDocument? (n : Nat) : Option Duration := if n ≤ maxMillis then some (ofMillis n) else none

/-- A blank between the tokens of a JSON text. -/
def isJsonBlank (c : Char) : Bool := c == ' ' || c == '\t' || c == '\n' || c == '\r'

/-- Reads a JSON text as a duration. -/
def ofJson? (text : String) : Option Duration :=
  let cs := ((text.toList.dropWhile isJsonBlank).reverse.dropWhile isJsonBlank).reverse
  (plainNumber? cs).bind ofDocument?

end Duration

end ClusterGuard
