import ClusterGuard.Text.Digits
import ClusterGuard.Text.Split

/-!
# Numeric addresses

An IPv6 address is eight groups of up to four hexadecimal digits. One run of zero groups may be
left out, and the last two groups may be written as an IPv4 address. It is printed with its first
longest run of at least two zero groups left out. An IPv4 address has up to four numbers, each
decimal, octal or hexadecimal, the last of which fills what remains.
-/

namespace ClusterGuard.Uri

/-! ## IPv6 -/

/-- One group of an IPv6 address. -/
def ipv6Group? (cs : List Char) : Option Nat :=
  if cs.isEmpty || 4 < cs.length then none else readDigits? 16 cs

/-- One number of an IPv4 address inside an IPv6 address: decimal, no leading zero, one byte. -/
def byte? (cs : List Char) : Option Nat :=
  (plainNumber? cs).filter (· ≤ 255)

/-- The two groups that an IPv4 address stands for. -/
def ipv4Groups? (cs : List Char) : Option (List Nat) :=
  match (splitAt '.' cs).mapM byte? with
  | some [a, b, c, d] => some [a * 256 + b, c * 256 + d]
  | _ => none

/-- The groups between colons; only the last may be an IPv4 address. -/
def ipv6Groups? : List (List Char) → Option (List Nat)
  | [] => some []
  | [last] => if last.contains '.' then ipv4Groups? last else (ipv6Group? last).map ([·])
  | cs :: rest => do
    let g ← ipv6Group? cs
    let gs ← ipv6Groups? rest
    some (g :: gs)

/-- The fields of an address before and after the run that is left out, if there is one. -/
def splitGap (fields : List (List Char)) : List (List Char) × Option (List (List Char)) :=
  match fields.span (!·.isEmpty) with
  | (fields, []) => (fields, none)
  | (before, _ :: after) => (before, some after)

/-- The fields without the empty ones that a colon at the start or the end produces; a colon there
must be doubled. -/
def trimFields? (fields : List (List Char)) : Option (List (List Char)) := do
  let fields ← match fields with
    | [] :: [] :: next :: rest => some ([] :: next :: rest)
    | [] :: _ => none
    | _ => some fields
  match fields.reverse with
  | [] :: [] :: rest => some (([] :: rest).reverse)
  | [] :: _ => none
  | _ => some fields

/-- The eight groups of an IPv6 address. -/
def ipv6? (cs : List Char) : Option (List Nat) := do
  let fields ← trimFields? (splitAt ':' cs)
  match splitGap fields with
  | (fields, none) =>
    let groups ← ipv6Groups? fields
    if groups.length = 8 then some groups else none
  | (before, some after) =>
    if before.any (·.contains '.') then none
    else
      let front ← ipv6Groups? before
      let back ← ipv6Groups? after
      let missing := 8 - (front.length + back.length)
      if missing = 0 then none else some (front ++ List.replicate missing 0 ++ back)

/-- The length of the run of zero groups at the start. -/
def zeroRun (groups : List Nat) : Nat := (groups.takeWhile (· == 0)).length

/-- The start and the length of the first longest run of zero groups. -/
def longestZeroRun : List Nat → Nat × Nat
  | [] => (0, 0)
  | g :: gs =>
    let (start, length) := longestZeroRun gs
    if length ≤ zeroRun (g :: gs) then (0, zeroRun (g :: gs)) else (start + 1, length)

/-- The text of an IPv6 address, between brackets. -/
def ipv6Text (groups : List Nat) : List Char :=
  let join (gs : List Nat) := joinWith ':' (gs.map hexDigits)
  let (start, length) := longestZeroRun groups
  let body :=
    if length < 2 then join groups
    else join (groups.take start) ++ [':', ':'] ++ join (groups.drop (start + length))
  '[' :: body ++ [']']

/-! ## IPv4 -/

/-- One number of an IPv4 address: hexadecimal after `0x`, octal after `0`, else decimal. -/
def ipv4Number? (cs : List Char) : Option Nat :=
  match cs with
  | [] => none
  | '0' :: x :: rest =>
    if x = 'x' || x = 'X' then readDigits? 16 rest else readDigits? 8 (x :: rest)
  | _ => readDigits? 10 cs

/-- The parts of a host between dots, without an empty last one. -/
def dottedParts (host : List Char) : List (List Char) :=
  let parts := splitAt '.' host
  if parts.getLast? = some [] then parts.dropLast else parts

/-- Whether a host must be read as an IPv4 address: its last part is a number. -/
def endsInNumber (host : List Char) : Bool :=
  match (dottedParts host).getLast? with
  | none => false
  | some last => (!last.isEmpty && last.all Char.isDigit) || (ipv4Number? last).isSome

/-- Whether a host is an IPv4 address. -/
def isIpv4 (host : List Char) : Bool :=
  let parts := dottedParts host
  match parts.mapM ipv4Number? with
  | none => false
  | some numbers =>
    parts.length ≤ 4 && numbers.dropLast.all (· ≤ 255) &&
      (numbers.getLast?.getD 0) < 1 <<< (8 * (5 - numbers.length))

end ClusterGuard.Uri
