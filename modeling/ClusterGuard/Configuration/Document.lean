import ClusterGuard.Configuration.Basic
import ClusterGuard.Time.Millis
import ClusterGuard.Toml.Document

/-!
# Configurations in documents

Model of `ClusterConfiguration`: `from_toml_str` is `ofDocument`, its derived serialization is
`toEntries`. Documents themselves are read by `Toml`.

A configuration is the root table of a TOML document. Keys it does not know are ignored, keys that
are missing take their defaults. A section may also be written as an array of its fields in order,
of which the last may be left out. Durations are whole milliseconds, and a whole number may stand
where a floating-point number is expected. A configuration is written as a table with every key.
-/

namespace ClusterGuard.Configuration

open Toml (Value Entries)

/-! ## Single values -/

/-- What reads a field from its value. -/
abbrev FieldReader (α : Type) := Value → Option α

/-- A text. -/
def text? : FieldReader String
  | .text s => some s
  | _ => none

/-- A truth value. -/
def truth? : FieldReader Bool
  | .truth b => some b
  | _ => none

/-- A whole number below a bound. -/
def below? (bound : Nat) : FieldReader Nat
  | .whole n => if 0 ≤ n ∧ n < bound then some n.toNat else none
  | _ => none

/-- A number of attempts or calls. -/
def count? : FieldReader Nat := below? UInt32.size

/-- A duration in milliseconds. -/
def millis? : FieldReader Duration := fun v => (below? UInt64.size v).map .ofMillis

/-- Whether a whole number has at most 64 bits, with or without a sign. -/
def isWord (n : Int) : Bool := -(1 <<< 63 : Nat) ≤ n && n < UInt64.size

/-- A floating-point number, rounded once to its format. -/
def number? (f : ClusterGuard.Format) : FieldReader (Binary f)
  | .float x => some (x.convert f)
  | .whole n => if isWord n then some (.ofDecimal f (n < 0) n.natAbs 0) else none
  | _ => none

/-! ## Ignored values -/

mutual

/-- Whether a value that nobody asked for can be skipped. -/
def isReadable (small : Bool) : Value → Bool
  | .oversized => false
  | .whole n => !small || isWord n
  | .array _ items => areReadable small items
  | .table _ es => entriesReadable small es
  | _ => true

/-- The same for each of some values. -/
def areReadable (small : Bool) : List Value → Bool
  | [] => true
  | v :: vs => isReadable small v && areReadable small vs

/-- The same for the values of some entries. -/
def entriesReadable (small : Bool) : List (String × Value) → Bool
  | [] => true
  | (_, v) :: es => isReadable small v && entriesReadable small es

end

/-! ## Sections -/

/-- The fields of a section, each by its key or by its place; a section written as a date has
none. -/
inductive Section where
  | byKey (es : Entries)
  | byPlace (items : List Value)

/-- The section a value is, whose known keys are the given ones. -/
def section? (known : List String) : Value → Option Section
  | .table _ es =>
    if entriesReadable false (es.filter fun e => !known.contains e.1) then some (.byKey es)
    else none
  | .array _ items => some (.byPlace items)
  | .moment => some (.byKey [])
  | _ => none

/-- The value of a field, if the section has one. -/
def Section.value? (s : Section) (key : String) (place : Nat) : Option Value :=
  match s with
  | byKey es => es.get? key
  | byPlace items => items[place]?

/-- Reads a field; a missing one has the given value. -/
def Section.field {α : Type} (s : Section) (key : String) (place : Nat) (read : FieldReader α)
    (missing : Option α) : Option α :=
  match s.value? key place with
  | some v => read v
  | none => missing

/-- The keys of the breaker section, in order. -/
def breakerKeys : List String :=
  ["failure_rate_threshold", "permitted_number_of_calls_in_half_open_state",
    "sliding_window_size", "sliding_window_minimum_number_of_calls",
    "wait_duration_in_open_state"]

/-- The breaker section. -/
def breaker? : FieldReader BreakerSettings := fun v => do
  let s ← section? breakerKeys v
  let d : BreakerSettings := {}
  return {
    threshold := ← s.field "failure_rate_threshold" 0 (number? _) d.threshold
    trials := ← s.field "permitted_number_of_calls_in_half_open_state" 1 count? d.trials
    window := ← s.field "sliding_window_size" 2 count? d.window
    minimum := ← s.field "sliding_window_minimum_number_of_calls" 3 count? d.minimum
    wait := ← s.field "wait_duration_in_open_state" 4 millis? d.wait }

/-- The backoff of a section whose values other than its tag are all readable as words. -/
def tagged (tag : String) (s : Section) : Option BackoffSettings :=
  match tag, s with
  | "constant", .byKey _ | "constant", .byPlace [_] => some .constant
  | "exponential", s => do
    let multiplier ← s.field "multiplier" 1 (number? _) none
    let maxWait ← s.field "max_wait_duration" 2 millis? none
    let jitter ← s.field "jitter" 3 truth? (some false)
    match s with
    | .byPlace (_ :: _ :: _ :: _ :: _ :: _) => none
    | _ => return .exponential multiplier maxWait jitter
  | _, _ => none

/-- The backoff section, whose tag says what else it holds. -/
def backoff? : FieldReader BackoffSettings := fun v => do
  let s ← match v with
    | .table _ es => some (.byKey es)
    | .array _ items => some (.byPlace items)
    | _ => none
  let tag ← s.field "type" 0 text? none
  if isReadable true v then tagged tag s else none

/-- The retry section. -/
def retry? : FieldReader RetrySettings := fun v => do
  let s ← section? ["max_attempts", "wait_duration", "backoff"] v
  let d : RetrySettings := {}
  return {
    maxAttempts := ← s.field "max_attempts" 0 count? d.maxAttempts
    wait := ← s.field "wait_duration" 1 millis? d.wait
    backoff := ← s.field "backoff" 2 backoff? d.backoff }

/-! ## Documents -/

/-- The configuration of a root table. -/
def ofEntries? (es : Entries) : Option Configuration := do
  let s ← section? ["configuration_uri", "timeout", "circuit_breaker", "retry"] (.table .headed es)
  return {
    uri := ← s.field "configuration_uri" 0 text? none
    timeout := ← s.field "timeout" 1 millis? (some (.ofSeconds 3))
    breaker := ← s.field "circuit_breaker" 2 breaker? (some {})
    retry := ← s.field "retry" 3 retry? (some {}) }

/-- Reads a document and validates the configuration it holds. -/
def ofDocument (document : String) : Except ConfigError Configuration := do
  match (Toml.read? document).bind ofEntries? with
  | none => throw (.unreadable "not a configuration document")
  | some c =>
    c.validate
    return c

/-! ## Writing -/

/-- A table in a document that is written. -/
def written (es : Entries) : Value := .table .headed es

/-- A whole number in a document that is written. -/
def wholeNumber (n : Nat) : Value := .whole n

/-- A duration in a document that is written. -/
def wholeMillis (d : Duration) : Value := wholeNumber d.toDocument

/-- The breaker section of the settings. -/
def BreakerSettings.toValue (s : BreakerSettings) : Value := written [
  ("failure_rate_threshold", .float (s.threshold.convert _)),
  ("permitted_number_of_calls_in_half_open_state", wholeNumber s.trials),
  ("sliding_window_size", wholeNumber s.window),
  ("sliding_window_minimum_number_of_calls", wholeNumber s.minimum),
  ("wait_duration_in_open_state", wholeMillis s.wait)]

/-- The backoff section of the settings. -/
def BackoffSettings.toValue : BackoffSettings → Value
  | constant => written [("type", .text "constant")]
  | exponential multiplier maxWait jitter => written [
      ("type", .text "exponential"), ("multiplier", .float multiplier),
      ("max_wait_duration", wholeMillis maxWait), ("jitter", .truth jitter)]

/-- The retry section of the settings. -/
def RetrySettings.toValue (s : RetrySettings) : Value := written [
  ("max_attempts", wholeNumber s.maxAttempts), ("wait_duration", wholeMillis s.wait),
  ("backoff", s.backoff.toValue)]

/-- The root table of a configuration. -/
def toEntries (c : Configuration) : Entries := [
  ("configuration_uri", .text c.uri), ("timeout", wholeMillis c.timeout),
  ("circuit_breaker", c.breaker.toValue), ("retry", c.retry.toValue)]

end ClusterGuard.Configuration
