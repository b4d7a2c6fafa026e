import ClusterGuard.Uri.Authority
import ClusterGuard.Uri.Composition
import ClusterGuard.Uri.Direction
import ClusterGuard.Uri.Joiner
import ClusterGuard.Uri.Punycode

/-!
# Labels

A domain name is a sequence of labels with dots between them. Reading it replaces characters by
what they stand for, puts composed characters together, and decodes the labels that begin with
`xn--`. A label that was encoded must be one that reading would not change.
-/

namespace ClusterGuard.Uri

/-- How long a label beyond ASCII may be. -/
def maxLabel : Nat := 1000

/-- How long the encoded part of a label may be. -/
def maxEncoded : Nat := 2000

/-- Whether a character is beyond ASCII. -/
def isBeyondAscii (c : Char) : Bool := 0x80 ≤ c.toNat

/-- The characters a domain name must not hold. -/
def isDomainBan (c : Char) : Bool :=
  c.toNat ≤ 0x20 || c.toNat == 0x7f || c == '%' || hostNameBans.contains c

/-- Whether a text is one that an encoded label may stand for: it needs to be encoded, and reading
would not change it. -/
def isEncodable (text : List Char) : Bool :=
  text.any isBeyondAscii &&
    text.all (fun c => meaning? c == some [c] && !isDomainBan c && c != '.') &&
    compose text == text

/-- The text that a label stands for. -/
def label? (cs : List Char) : Option (List Char) :=
  match cs with
  | 'x' :: 'n' :: '-' :: '-' :: encoded =>
    if maxEncoded < encoded.length || encoded.any isBeyondAscii then none
    else (Punycode.decode? encoded).filter isEncodable
  | _ => some cs

/-- Whether a label is well-formed: no mark at its beginning, all joiners at their place, and not
too long. -/
def isSound (label : List Char) : Bool :=
  !label.head?.any isMark && hasPlacedJoiners [] label &&
    (label.length ≤ maxLabel || !label.any isBeyondAscii)

/-- The labels that a text stands for as a domain name, if it is one. -/
def labels? (text : List Char) : Option (List (List Char)) := do
  let text := compose (← text.mapM meaning?).flatten
  if text.any isDomainBan then none
  let labels ← (splitAt '.' text).mapM label?
  if labels.all isSound && areReadable labels then some labels else none

end ClusterGuard.Uri
