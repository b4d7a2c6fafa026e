import ClusterGuard.Text.Digits

/-!
# Percent encoding

A character that a component of a URI cannot hold is written as its UTF-8 bytes, each as a percent
sign and two upper-case hexadecimal digits. Control characters and everything beyond ASCII are
always encoded; each component adds characters of its own.
-/

namespace ClusterGuard.Uri

/-- The characters, apart from controls and those beyond ASCII, that a component encodes. -/
abbrev EncodeSet := List Char

/-- What fragments encode. -/
def fragmentSet : EncodeSet := [' ', '"', '<', '>', '`']

/-- What paths encode. -/
def pathSet : EncodeSet := fragmentSet ++ ['#', '?', '{', '}']

/-- What user names and passwords encode. -/
def userinfoSet : EncodeSet := pathSet ++ ['/', ':', ';', '=', '@', '[', '\\', ']', '^', '|']

/-- What queries encode. -/
def querySet : EncodeSet := [' ', '"', '#', '<', '>']

/-- Whether a component with the given set encodes a character. -/
def encodes (set : EncodeSet) (c : Char) : Bool :=
  c.toNat < 0x20 || 0x7f ≤ c.toNat || set.contains c

/-- One byte, encoded. -/
def percentByte (b : UInt8) : List Char :=
  '%' :: (padded 2 (hexDigits b.toNat)).map Char.toUpper

/-- The characters of a component, encoded. -/
def percentEncode (set : EncodeSet) (cs : List Char) : List Char :=
  cs.flatMap fun c =>
    if encodes set c then (String.utf8EncodeChar c).flatMap percentByte else [c]

end ClusterGuard.Uri
