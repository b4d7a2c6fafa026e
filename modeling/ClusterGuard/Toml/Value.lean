import ClusterGuard.Number.Binary

/-!
# Values of a document

What a TOML document says. Tables and arrays remember how they were written, since that decides
what may still be added to them while the document is read.
-/

namespace ClusterGuard.Toml

/-- How a table came about. -/
inductive TableForm where
  /-- Written between braces: complete as it is. -/
  | inline
  /-- Opened by a header of its own. -/
  | headed
  /-- Mentioned on the way to a table with a header. -/
  | implied
  /-- Mentioned in a dotted key. -/
  | dotted
deriving DecidableEq

/-- How an array came about. -/
inductive ArrayForm where
  /-- Written between brackets: complete as it is. -/
  | inline
  /-- Made of tables with headers in double brackets. -/
  | headed
deriving DecidableEq

/-- A value. -/
inductive Value where
  | text (s : String)
  | whole (n : Int)
  | float (x : Binary .double)
  /-- A number too large for any type it could have. -/
  | oversized
  | truth (b : Bool)
  /-- A date, a time, or both. -/
  | moment
  | array (form : ArrayForm) (items : List Value)
  | table (form : TableForm) (entries : List (String × Value))

/-- The entries of a table, in the order in which their keys first appear. -/
abbrev Entries := List (String × Value)

/-- Replaces the value of a key, or adds the key at the end. -/
def Entries.put (k : String) (v : Value) : Entries → Entries
  | [] => [(k, v)]
  | (k', v') :: es => if k' = k then (k, v) :: es else (k', v') :: Entries.put k v es

/-- The value of a key. -/
def Entries.get? (k : String) (es : Entries) : Option Value := List.lookup k es

end ClusterGuard.Toml
