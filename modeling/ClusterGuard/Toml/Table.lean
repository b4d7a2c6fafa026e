import ClusterGuard.Toml.Value

/-!
# Building tables

A document may come back to a table to add to it, but may not define anything twice. A header may
open a table that was only mentioned so far; a dotted key may add to tables that dotted keys made.
-/

namespace ClusterGuard.Toml

/-- A change of the entries of a table, which may depend on the table's form. -/
abbrev Change := TableForm → Entries → Option Entries

/-- Changes the last of some tables. -/
def changeLast (change : Change) : List Value → Option (List Value)
  | [] => none
  | [.table form es] => (change form es).map fun es => [.table form es]
  | v :: vs => (changeLast change vs).map (v :: ·)

/-- Changes the table at the end of a path, making the tables on the way that are not there. With
`byKey` the path belongs to a dotted key, which does not pass through tables with headers. -/
def changeAt (byKey : Bool) (change : Change) : List String → Change
  | [], form, es => change form es
  | k :: ks, _, es =>
    match es.get? k with
    | none =>
      let form := if byKey then .dotted else .implied
      (changeAt byKey change ks form []).map fun sub => es.put k (.table form sub)
    | some (.table form sub) =>
      if form = .inline ∨ (byKey ∧ form = .headed) then none
      else (changeAt byKey change ks form sub).map fun sub => es.put k (.table form sub)
    | some (.array .headed tables) =>
      (changeLast (changeAt byKey change ks) tables).map fun tables =>
        es.put k (.array .headed tables)
    | some _ => none

/-- Adds a key to a table; `dotted` tells whether the key was written with a path. Only dotted keys
add to a table that dotted keys made, and to no other. -/
def addKey (dotted : Bool) (k : String) (v : Value) : Change := fun form es =>
  if decide (form = .dotted) = dotted ∧ (es.get? k).isNone then some (es.put k v) else none

/-- Opens a table by its header. -/
def openTable (k : String) : Change := fun _ es =>
  match es.get? k with
  | none => some (es.put k (.table .headed []))
  | some (.table .implied sub) => some (es.put k (.table .headed sub))
  | some _ => none

/-- Opens the next table of an array of tables by its header. -/
def openNext (k : String) : Change := fun _ es =>
  match es.get? k with
  | none => some (es.put k (.array .headed [.table .headed []]))
  | some (.array .headed tables) =>
    some (es.put k (.array .headed (tables ++ [.table .headed []])))
  | some _ => none

/-- Adds a value under a dotted key. -/
def addPair (path : List String) (v : Value) : Change := fun form es =>
  match path.getLast? with
  | none => none
  | some k => changeAt true (addKey (1 < path.length) k v) path.dropLast form es

/-- Adds a header: opens the table, or the next table of the array, at the end of a path. -/
def addHeader (next : Bool) (path : List String) (es : Entries) : Option Entries :=
  match path.getLast? with
  | none => none
  | some k => changeAt false (if next then openNext k else openTable k) path.dropLast .headed es

end ClusterGuard.Toml
