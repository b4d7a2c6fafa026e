/-!
# Numbers as digits

Writing whole numbers in decimal and hexadecimal, and reading them back in any base up to sixteen.
-/

namespace ClusterGuard

/-- The decimal digits of `n`. -/
def decimalDigits (n : Nat) : List Char := Nat.toDigits 10 n

/-- The lower-case hexadecimal digits of `n`. -/
def hexDigits (n : Nat) : List Char := Nat.toDigits 16 n

/-- Digits with zeros in front of them, up to a width. -/
def padded (width : Nat) (ds : List Char) : List Char :=
  List.replicate (width - ds.length) '0' ++ ds

/-- The value of a hexadecimal digit. -/
def hexValue? (c : Char) : Option Nat :=
  if c.isDigit then some (c.toNat - '0'.toNat)
  else if 'a' ≤ c ∧ c ≤ 'f' then some (c.toNat - 'a'.toNat + 10)
  else if 'A' ≤ c ∧ c ≤ 'F' then some (c.toNat - 'A'.toNat + 10)
  else none

/-- The value of a digit in a base. -/
def digitValue? (base : Nat) (c : Char) : Option Nat := (hexValue? c).filter (· < base)

/-- The value of a sequence of digits in a base; zero for no digits at all. -/
def readDigits? (base : Nat) (cs : List Char) : Option Nat :=
  cs.foldlM (fun n c => (digitValue? base c).map (n * base + ·)) 0

/-- Whether the characters are the decimal digits of a whole number without leading zeros. -/
def isPlainNumber : List Char → Bool
  | [] => false
  | ['0'] => true
  | c :: cs => c != '0' && (c :: cs).all Char.isDigit

/-- The whole number that plain decimal digits stand for. -/
def plainNumber? (cs : List Char) : Option Nat :=
  if isPlainNumber cs then readDigits? 10 cs else none

end ClusterGuard
