import ClusterGuard.Toml.Moment
import ClusterGuard.Toml.Number
import ClusterGuard.Toml.Table
import ClusterGuard.Toml.Text

/-!
# Documents

Model of the reader that `from_toml_str` calls: which documents it takes and which values it finds
there, but not the texts of its errors.

A document is a sequence of lines: headers in brackets, which say where the keys after them belong,
and keys with their values. Arrays and inline tables may span lines and be nested up to a depth.
-/

namespace ClusterGuard.Toml

/-- How deeply arrays and inline tables may be nested. -/
def maxDepth : Nat := 80

/-- A character of a number, a truth value, a date or a time. -/
def isPlain (c : Char) : Bool := isBare c || c == '+' || c == '.' || c == ':'

/-- The value that a plain word stands for. -/
def plain? (cs : List Char) : Option Value :=
  if cs = "true".toList then some (.truth true)
  else if cs = "false".toList then some (.truth false)
  else if isMoment cs then some .moment
  else number? cs

/-- Reads a plain value; a date and the time after it may be separated by a blank. -/
def readPlain? (cs : List Char) : Option (Value × List Char) :=
  let word := cs.takeWhile isPlain
  let rest := cs.dropWhile isPlain
  match isDate word, rest with
  | true, ' ' :: d :: more =>
    if d.isDigit then
      let time := (d :: more).takeWhile isPlain
      (plain? (word ++ ' ' :: time)).map (·, (d :: more).dropWhile isPlain)
    else (plain? word).map (·, rest)
  | _, _ => (plain? word).map (·, rest)

/-- What reads a value. -/
abbrev Reader := List Char → Option (Value × List Char)

/-- Reads the items of an array up to its closing bracket, at most `n` of them. -/
def readItems (value : Reader) : (n : Nat) → List Value → Reader
  | 0, _, _ => none
  | n + 1, items, cs =>
    match skipAll cs with
    | ']' :: rest => some (.array .inline items, rest)
    | cs => do
      let (v, cs) ← value cs
      let items := items ++ [v]
      match skipAll cs with
      | ']' :: rest => some (.array .inline items, rest)
      | ',' :: rest => readItems value n items rest
      | _ => none

/-- Reads a key, an equals sign and a value. -/
def readPair (value : Reader) (cs : List Char) : Option ((List String × Value) × List Char) := do
  let (path, cs) ← readPath? cs
  match cs with
  | '=' :: cs =>
    let (v, cs) ← value (skipBlanks cs)
    return ((path, v), cs)
  | _ => none

/-- Reads the entries of an inline table up to its closing brace, at most `n` of them. -/
def readEntries (value : Reader) : (n : Nat) → Entries → Reader
  | 0, _, _ => none
  | n + 1, es, cs =>
    match skipAll cs with
    | '\x7d' :: rest => some (.table .inline es, rest)
    | cs => do
      let ((path, v), cs) ← readPair value cs
      let es ← addPair path v .inline es
      match skipAll cs with
      | '\x7d' :: rest => some (.table .inline es, rest)
      | ',' :: rest => readEntries value n es rest
      | _ => none

/-- Reads a value whose arrays and inline tables are nested at most `depth` times. -/
def readValue : (depth : Nat) → Reader
  | depth, cs =>
    match depth, cs with
    | depth + 1, '[' :: cs => readItems (readValue depth) (cs.length + 1) [] cs
    | depth + 1, '\x7b' :: cs => readEntries (readValue depth) (cs.length + 1) [] cs
    | _, '"' :: _ | _, '\'' :: _ =>
      (readText? cs).map fun (s, rest) => (.text (String.ofList s), rest)
    | _, cs => readPlain? cs

/-- Reads a header after its opening bracket: whether it belongs to an array of tables, its path,
and what follows it. -/
def readHeader? (cs : List Char) : Option (Bool × List String × List Char) :=
  match cs with
  | '[' :: cs => do
    match ← readPath? cs with
    | (path, ']' :: ']' :: rest) => return (true, path, rest)
    | _ => none
  | cs => do
    match ← readPath? cs with
    | (path, ']' :: rest) => return (false, path, rest)
    | _ => none

/-- Reads lines, at most `n` of them, into a document whose keys now belong to the table at the
end of `path`. -/
def readDocument : (n : Nat) → (path : List String) → Entries → List Char → Option Entries
  | 0, _, es, cs => if cs.isEmpty then some es else none
  | n + 1, path, es, cs =>
    match skipAll cs with
    | [] => some es
    | '[' :: cs => do
      let (next, path, cs) ← readHeader? cs
      readDocument n path (← addHeader next path es) (← restOfLine? cs)
    | cs => do
      let ((key, v), cs) ← readPair (readValue maxDepth) cs
      readDocument n path (← changeAt false (addPair key v) path .headed es) (← restOfLine? cs)

/-- The entries of a document; a byte order mark at its start is skipped. -/
def read? (document : String) : Option Entries :=
  let cs := match document.toList with
    | '\ufeff' :: cs => cs
    | cs => cs
  readDocument (cs.length + 1) [] [] cs

end ClusterGuard.Toml
