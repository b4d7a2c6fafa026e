/-!
# Between the values

Blanks, comments and line ends. A line ends with a line feed, alone or after a carriage return; a
carriage return anywhere else is refused, and so are other control characters in comments and texts.
-/

namespace ClusterGuard.Toml

/-- A blank inside a line. -/
def isBlank (c : Char) : Bool := c == ' ' || c == '\t'

/-- A character that may stand in a comment or a text. -/
def isAllowed (c : Char) : Bool := c == '\t' || (' ' ≤ c && c != '\x7f')

/-- What follows the blanks. -/
def skipBlanks (cs : List Char) : List Char := cs.dropWhile isBlank

/-- What follows the line end that stands first, if one does. -/
def lineEnd? : List Char → Option (List Char)
  | '\n' :: cs => some cs
  | '\r' :: '\n' :: cs => some cs
  | _ => none

/-- What follows a comment, if one stands first. -/
def skipComment : List Char → List Char
  | '#' :: cs => cs.dropWhile isAllowed
  | cs => cs

/-- What follows the rest of a line that holds nothing more than a comment: the next line, or
nothing at the end of the document. -/
def restOfLine? (cs : List Char) : Option (List Char) :=
  match skipComment (skipBlanks cs) with
  | [] => some []
  | cs => lineEnd? cs

/-- What follows any number of blanks, comments and line ends, at most `n` of the last. -/
def skipLines : (n : Nat) → List Char → List Char
  | 0, cs => cs
  | n + 1, cs =>
    let cs := skipComment (skipBlanks cs)
    match lineEnd? cs with
    | some rest => skipLines n rest
    | none => cs

/-- What follows any number of blanks, comments and line ends. -/
def skipAll (cs : List Char) : List Char := skipLines cs.length cs

end ClusterGuard.Toml
