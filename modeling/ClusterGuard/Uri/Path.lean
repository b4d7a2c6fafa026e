import ClusterGuard.Text.Split
import ClusterGuard.Uri.Percent

/-!
# Paths

A path is a list of encoded segments, written with a slash in front of each. Segments of one or two
dots are not kept: one dot stands for where it is, two dots remove the segment before them. A drive
letter is never removed.
-/

namespace ClusterGuard.Uri

/-- A dot, plain or encoded. -/
def dotForms : List (List Char) := [['.'], ['%', '2', 'e'], ['%', '2', 'E']]

/-- Whether a segment stands for the place where it is. -/
def isHere (segment : List Char) : Bool := dotForms.contains segment

/-- Whether a segment removes the one before it. -/
def isParent (segment : List Char) : Bool :=
  dotForms.any fun a => dotForms.any fun b => segment == a ++ b

/-- Whether a segment is a drive letter. -/
def isDrive : List Char → Bool
  | a :: b :: rest =>
    a.isAlpha && (b == ':' || b == '|') && (rest.isEmpty || rest.head? == some '\\')
  | _ => false

/-- The segments without the last one, which stays if it is a drive letter. -/
def withoutLast (segments : List (List Char)) : List (List Char) :=
  if (segments.getLast?.any isDrive) then segments else segments.dropLast

/-- Adds the segments of a text to a path, working off dots. -/
def addSegments (path : List (List Char)) : List (List Char) → List (List Char)
  | [] => path
  | segment :: rest =>
    let last : List (List Char) := if rest.isEmpty then [[]] else []
    if isParent segment then addSegments (withoutLast path ++ last) rest
    else if isHere segment then addSegments (path ++ last) rest
    else addSegments (path ++ [segment]) rest

/-- The path that the text after an authority stands for. -/
def readPath : List Char → List (List Char)
  | [] => []
  | c :: cs => addSegments [] ((splitAt '/' (if c = '/' then cs else c :: cs)).map
      (percentEncode pathSet))

/-- The text of a path. -/
def pathText (path : List (List Char)) : List Char := path.flatMap ('/' :: ·)

end ClusterGuard.Uri
