import ClusterGuard.Text.Digits
import ClusterGuard.Toml.Blank

/-!
# Texts and keys

A text stands between double quotes, where a backslash begins an escape, or between single quotes,
where every character stands for itself; between three of them it may span lines. A key is bare or
a text of one line, and several keys joined by dots make a path.
-/

namespace ClusterGuard.Toml

/-- The character with the given number, if there is one. -/
def scalar? (n : Nat) : Option Char := if n.isValidChar then some (Char.ofNat n) else none

/-- The character that hexadecimal digits stand for. -/
def hexScalar? (ds : List Char) : Option Char := (readDigits? 16 ds).bind scalar?

/-- The escape that follows a backslash: its character, and what follows it. -/
def escape? : List Char → Option (Char × List Char)
  | 'b' :: cs => some ('\x08', cs)
  | 't' :: cs => some ('\t', cs)
  | 'n' :: cs => some ('\n', cs)
  | 'f' :: cs => some ('\x0c', cs)
  | 'r' :: cs => some ('\r', cs)
  | 'e' :: cs => some ('\x1b', cs)
  | '"' :: cs => some ('"', cs)
  | '\\' :: cs => some ('\\', cs)
  | 'x' :: cs => numbered 2 cs
  | 'u' :: cs => numbered 4 cs
  | 'U' :: cs => numbered 8 cs
  | _ => none
where
  /-- An escape of so many hexadecimal digits. -/
  numbered (width : Nat) (cs : List Char) : Option (Char × List Char) :=
    if width ≤ cs.length then (hexScalar? (cs.take width)).map (·, cs.drop width) else none

/-- What a reader of a text returns: its characters, and what follows its end. -/
abbrev Reading := Option (List Char × List Char)

/-- Puts characters in front of a text that was read. -/
def Reading.after (front : List Char) (r : Reading) : Reading :=
  r.map fun (text, rest) => (front ++ text, rest)

/-! ## One line -/

/-- Reads up to the closing double quote, in at most `n` steps. -/
def readBasic : (n : Nat) → List Char → Reading
  | 0, _ | _, [] => none
  | _ + 1, '"' :: cs => some ([], cs)
  | n + 1, '\\' :: cs => (escape? cs).bind fun (c, cs) => (readBasic n cs).after [c]
  | n + 1, c :: cs => if isAllowed c then (readBasic n cs).after [c] else none

/-- Reads up to the closing single quote. -/
def readLiteral : List Char → Reading
  | [] => none
  | '\'' :: cs => some ([], cs)
  | c :: cs => if isAllowed c then (readLiteral cs).after [c] else none

/-! ## Several lines -/

/-- The end of a text between three quotes: up to two quotes before the last three belong to it. -/
def closing? (quote : Char) (cs : List Char) : Reading :=
  let run := (cs.takeWhile (· == quote)).length
  if run < 3 then none
  else
    let quotes := min run 5
    some (List.replicate (quotes - 3) quote, cs.drop quotes)

/-- What follows a backslash at the end of a line: the next character that is neither a blank nor
part of a line end. -/
def continued? (cs : List Char) : Option (List Char) :=
  (lineEnd? (skipBlanks cs)).map skipLineEnds
where
  /-- What follows any blanks and line ends. -/
  skipLineEnds : List Char → List Char
    | '\r' :: '\n' :: cs => skipLineEnds cs
    | c :: cs => if isBlank c || c == '\n' then skipLineEnds cs else c :: cs
    | [] => []

/-- Reads up to the closing three quotes, in at most `n` steps. Escapes count only between double
quotes. Line ends are kept as they are. -/
def readLines (quote : Char) : (n : Nat) → List Char → Reading
  | 0, _ | _, [] => none
  | n + 1, c :: cs =>
    match closing? quote (c :: cs) with
    | some r => some r
    | none =>
      if c == '\\' && quote == '"' then
        match continued? cs with
        | some rest => readLines quote n rest
        | none => (escape? cs).bind fun (c, cs) => (readLines quote n cs).after [c]
      else if isAllowed c || (lineEnd? (c :: cs)).isSome then (readLines quote n cs).after [c]
      else none

/-- Reads a text between three quotes; a line end right after the opening is not part of it. -/
def readBlock (quote : Char) (cs : List Char) : Reading :=
  readLines quote (cs.length + 1) ((lineEnd? cs).getD cs)

/-! ## Texts and keys -/

/-- Reads a text of one line. -/
def readQuoted? : List Char → Reading
  | '"' :: cs => readBasic (cs.length + 1) cs
  | '\'' :: cs => readLiteral cs
  | _ => none

/-- Reads a text. -/
def readText? : List Char → Reading
  | '"' :: '"' :: '"' :: cs => readBlock '"' cs
  | '\'' :: '\'' :: '\'' :: cs => readBlock '\'' cs
  | cs => readQuoted? cs

/-- A character of a bare key. -/
def isBare (c : Char) : Bool := c.isAlphanum || c == '_' || c == '-'

/-- Reads a single key. -/
def readKey? (cs : List Char) : Reading :=
  match cs.takeWhile isBare with
  | [] => readQuoted? cs
  | key => some (key, cs.dropWhile isBare)

/-- Reads keys joined by dots, at most `n` of them. -/
def readPath : (n : Nat) → List Char → Option (List String × List Char)
  | 0, _ => none
  | n + 1, cs => do
    let (key, cs) ← readKey? (skipBlanks cs)
    match skipBlanks cs with
    | '.' :: cs =>
      let (keys, cs) ← readPath n cs
      return (String.ofList key :: keys, cs)
    | cs => return ([String.ofList key], cs)

/-- How many keys a path may have. -/
def maxKeys : Nat := 80

/-- Reads keys joined by dots, and the blanks after them. -/
def readPath? : List Char → Option (List String × List Char) := readPath maxKeys

end ClusterGuard.Toml
