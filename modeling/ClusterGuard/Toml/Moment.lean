import ClusterGuard.Text.Digits
import ClusterGuard.Text.Split

/-!
# Dates and times

Whether characters are a date, a time of day, or a date and a time, the last with or without an
offset. Seconds may be left out, and a fraction of a second may follow them.
-/

namespace ClusterGuard.Toml

/-- The number that exactly so many decimal digits stand for. -/
def fixedDigits? (width : Nat) (cs : List Char) : Option Nat :=
  if cs.length = width then readDigits? 10 cs else none

/-- Whether a year has a 29th of February. -/
def isLeapYear (y : Nat) : Bool := y % 4 == 0 && (y % 100 != 0 || y % 400 == 0)

/-- The number of days of a month. -/
def daysIn (year month : Nat) : Nat :=
  if month = 2 then if isLeapYear year then 29 else 28
  else if month = 4 ∨ month = 6 ∨ month = 9 ∨ month = 11 then 30
  else 31

/-- Whether the characters are a date. -/
def isDate (cs : List Char) : Bool :=
  match splitAt '-' cs with
  | [y, m, d] =>
    match fixedDigits? 4 y, fixedDigits? 2 m, fixedDigits? 2 d with
    | some y, some m, some d => 1 ≤ m && m ≤ 12 && 1 ≤ d && d ≤ daysIn y m
    | _, _, _ => false
  | _ => false

/-- Whether the characters are a number of exactly two digits, at most `limit`. -/
def isClockPart (limit : Nat) (cs : List Char) : Bool :=
  (fixedDigits? 2 cs).any (· ≤ limit)

/-- Whether the characters are seconds; sixty for a leap second. -/
def isSeconds (cs : List Char) : Bool :=
  match splitAt '.' cs with
  | [s] => isClockPart 60 s
  | [s, fraction] => isClockPart 60 s && !fraction.isEmpty && fraction.all Char.isDigit
  | _ => false

/-- Whether the characters are a time of day. -/
def isTime (cs : List Char) : Bool :=
  match splitAt ':' cs with
  | [h, m] => isClockPart 23 h && isClockPart 59 m
  | [h, m, s] => isClockPart 23 h && isClockPart 59 m && isSeconds s
  | _ => false

/-- Whether the characters are an offset from universal time, without its sign. -/
def isOffset (cs : List Char) : Bool :=
  match splitAt ':' cs with
  | [h, m] => isClockPart 23 h && isClockPart 59 m
  | _ => false

/-- Whether the characters are a time of day, with or without an offset. -/
def isZonedTime (cs : List Char) : Bool :=
  let time := cs.takeWhile fun c => c.isDigit || c == ':' || c == '.'
  isTime time && match cs.drop time.length with
    | [] | ['z'] | ['Z'] => true
    | sign :: offset => (sign == '+' || sign == '-') && isOffset offset

/-- Whether the characters are a date, a time, or both. -/
def isMoment (cs : List Char) : Bool :=
  isTime cs || isDate cs || (isDate (cs.take 10) && match cs.drop 10 with
    | separator :: time => [' ', 't', 'T'].contains separator && isZonedTime time
    | [] => false)

end ClusterGuard.Toml
