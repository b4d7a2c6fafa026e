/-!
# Cutting texts at a character
-/

namespace ClusterGuard

/-- The pieces of a text between the places where `sep` stands; one piece if it stands nowhere. -/
def splitAt (sep : Char) : List Char → List (List Char)
  | [] => [[]]
  | c :: cs =>
    if c = sep then [] :: splitAt sep cs
    else match splitAt sep cs with
      | [] => [[c]]
      | piece :: pieces => (c :: piece) :: pieces

/-- The pieces with the separator between them. -/
def joinWith (sep : Char) : List (List Char) → List Char
  | [] => []
  | [piece] => piece
  | piece :: pieces => piece ++ sep :: joinWith sep pieces

/-- The words of a text, between blanks and line ends. -/
def words (cs : List Char) : List (List Char) :=
  (splitAt ' ' (cs.map fun c => if c = '\n' then ' ' else c)).filter (!·.isEmpty)

end ClusterGuard
