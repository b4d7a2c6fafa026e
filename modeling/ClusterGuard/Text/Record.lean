import ClusterGuard.Text.Quoted

/-!
# Records as text

Model of the `Debug` form of structures and of tagged values.

A record is written as its name and its fields in order, `Name { first: 1, second: "x" }`; a
tagged value as the tag and what it carries, `Tag(1)`.
-/

namespace ClusterGuard

/-- The text of a record. -/
def recordText (name : String) (fields : List (String × String)) : String :=
  name ++ " \x7b " ++ ", ".intercalate (fields.map fun (k, v) => k ++ ": " ++ v) ++ " \x7d"

/-- The text of a tag with one value. -/
def taggedText (tag value : String) : String := tag ++ "(" ++ value ++ ")"

/-- The text of a truth value. -/
def boolText (b : Bool) : String := if b then "true" else "false"

end ClusterGuard
