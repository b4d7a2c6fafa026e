import ClusterGuard.Text.Digits
import ClusterGuard.Text.Split
import ClusterGuard.Toml.Value

/-!
# Numbers

A whole number is written in decimal, with or without a sign, or in base 16, 8 or 2 after `0x`, `0o`
or `0b`. A number with a fraction or an exponent is a floating-point number. Underscores may stand
between digits, and a decimal whole part has no leading zero.
-/

namespace ClusterGuard.Toml

/-- The digits of a number in a base, without the underscores between them. -/
def digits? (base : Nat) (cs : List Char) : Option (List Char) :=
  let groups := splitAt '_' cs
  if groups.all (fun g => !g.isEmpty && g.all fun c => (digitValue? base c).isSome)
  then some groups.flatten else none

/-- The decimal digits of a whole part. -/
def wholeDigits? (cs : List Char) : Option (List Char) :=
  match digits? 10 cs with
  | some ['0'] => some ['0']
  | some ('0' :: _) => none
  | ds => ds

/-- A sign and what follows it. -/
def signed : List Char → Bool × List Char
  | '-' :: cs => (true, cs)
  | '+' :: cs => (false, cs)
  | cs => (false, cs)

/-- A whole number as a value; numbers of more than 128 bits are oversized. -/
def wholeValue (n : Int) : Value :=
  if -(1 <<< 127 : Nat) ≤ n ∧ n < (1 <<< 128 : Nat) then .whole n else .oversized

/-- A finite floating-point number as a value. -/
def floatValue (x : Binary .double) : Value := if x.isFinite then .float x else .oversized

/-- Reads the characters of a whole number. -/
def whole? (cs : List Char) : Option Value :=
  match cs with
  | '0' :: 'x' :: ds => based 16 ds
  | '0' :: 'o' :: ds => based 8 ds
  | '0' :: 'b' :: ds => based 2 ds
  | cs => do
    let (negative, cs) := signed cs
    let n ← readDigits? 10 (← wholeDigits? cs)
    return wholeValue (if negative then -n else n)
where
  /-- A number in another base. -/
  based (base : Nat) (ds : List Char) : Option Value := do
    let n ← readDigits? base (← digits? base ds)
    return wholeValue n

/-- The value of an exponent. -/
def exponent? (cs : List Char) : Option Int := do
  let (negative, cs) := signed cs
  let n ← readDigits? 10 (← digits? 10 cs)
  return if negative then -n else n

/-- Reads the characters of a floating-point number. -/
def float? (cs : List Char) : Option Value :=
  let (negative, cs) := signed cs
  match cs with
  | ['i', 'n', 'f'] => some (.float (.infinity negative))
  | ['n', 'a', 'n'] => some (.float .nan)
  | cs => do
    let mantissa := cs.takeWhile fun c => c != 'e' && c != 'E'
    let exponent ← match cs.drop mantissa.length with
      | [] => some 0
      | _ :: cs => exponent? cs
    let (front, fraction) ← match splitAt '.' mantissa with
      | [front] => (wholeDigits? front).map (·, [])
      | [front, fraction] => do pure (← wholeDigits? front, ← digits? 10 fraction)
      | _ => none
    let n ← readDigits? 10 (front ++ fraction)
    return floatValue (.ofDecimal _ negative n (exponent - fraction.length))

/-- Reads the characters of a number. -/
def number? (cs : List Char) : Option Value := whole? cs <|> float? cs

end ClusterGuard.Toml
