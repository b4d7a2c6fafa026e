import ClusterGuard.Attempt

/-!
# Streams of results

Model of what `Stream` asks of a stream: `poll_next` is `poll`.

A stream is polled: it is not ready, gives a value or an error, or has ended. A `Source` says how
streams with states `τ` are polled and dropped in surroundings `w`. The plainest source plays a
script of items.
-/

namespace ClusterGuard

/-- What one poll of a stream gives. -/
inductive Signal (ε α : Type) where
  | pending
  | value (a : α)
  | failure (e : ε)
  | ended

/-- How streams with states `τ` act on their surroundings `w`. -/
structure Source (w τ ε α : Type) where
  poll : τ → w → Signal ε α × τ × w
  /-- What dropping a stream does to the surroundings. -/
  drop : τ → w → w

/-- The same streams in larger surroundings, of which they see the part that `get` picks out. -/
def Source.focus {w w' τ ε α : Type} (source : Source w' τ ε α) (get : w → w')
    (put : w' → w → w) : Source w τ ε α where
  poll s world :=
    let (signal, s, part) := source.poll s (get world)
    (signal, s, put part world)
  drop s world := put (source.drop s (get world)) world

/-- One item of a scripted stream: not ready for one poll, or a result that is found when the item
is polled. -/
inductive Item (σ ε α : Type) where
  | pause
  | emit (run : Act σ ε α)

/-- An item that leaves the surroundings alone. -/
def Item.of {σ ε α : Type} (result : Except ε α) : Item σ ε α := .emit fun s => (result, s)

/-- A scripted stream; it ends where the script ends. -/
abbrev Script (σ ε α : Type) := List (Item σ ε α)

/-- The signal a result is delivered as. -/
def Signal.of {ε α : Type} : Except ε α → Signal ε α
  | .ok a => .value a
  | .error e => .failure e

namespace Script

variable {σ ε α : Type}

/-- Polls a scripted stream: the next item, if there is one. -/
def poll : Script σ ε α → σ → Signal ε α × Script σ ε α × σ
  | [], s => (.ended, [], s)
  | .pause :: rest, s => (.pending, rest, s)
  | .emit run :: rest, s => (.of (run s).1, rest, (run s).2)

/-- Scripted streams as a source; dropping one has no effect. -/
def source (σ ε α : Type) : Source σ (Script σ ε α) ε α := ⟨poll, fun _ s => s⟩

end Script

/-- The script with its errors replaced. -/
def Script.mapError {σ ε ε' α : Type} (f : ε → ε') (s : Script σ ε α) : Script σ ε' α :=
  s.map fun
    | .pause => .pause
    | .emit run => .emit fun s => ((run s).1.mapError f, (run s).2)

end ClusterGuard
