import ClusterGuard.Uri.Domain

/-!
# Addresses of clusters

Model of `Url` as far as `ClusterUri` needs it: `read?` is its `parse` with the checks that
`ClusterUri` makes after it, `text` its `Display` form, `withPassword?` its `set_password`.
`redacted` is the address that the `Display` form of `ClusterUri` shows.

A cluster is addressed by a `redis` or `rediss` URI with a host. `read?` brings it into normal form:
components are percent-encoded, paths have no dot segments, addresses are in their shortest form.
`text` writes it back.
-/

namespace ClusterGuard

/-- The address of a cluster, every component in its encoded form. -/
structure Uri where
  /-- Whether the connection is encrypted. -/
  secure : Bool
  username : List Char
  /-- Empty if there is no password. -/
  password : List Char
  host : Uri.Host
  port : Option Nat
  path : List (List Char)
  query : Option (List Char)
  fragment : Option (List Char)
deriving DecidableEq

namespace Uri

/-- The scheme of plain connections. -/
def plainScheme : String := "redis"

/-- The scheme of encrypted connections. -/
def secureScheme : String := "rediss"

/-- Whether a character may stand in a scheme. -/
def isSchemeChar (c : Char) : Bool := c.isAlphanum || c == '+' || c == '-' || c == '.'

/-- The scheme of a URI in lower case, and what follows its colon. -/
def splitScheme? (cs : List Char) : Option (String × List Char) :=
  match cs.span isSchemeChar with
  | (c :: scheme, ':' :: rest) =>
    if c.isAlpha then some (String.ofList ((c :: scheme).map Char.toLower), rest) else none
  | _ => none

/-- A text without the blanks and control characters around it, and without tabs and line breaks. -/
def cleaned (cs : List Char) : List Char :=
  let isEdge (c : Char) : Bool := c.toNat ≤ 0x20
  (((cs.dropWhile isEdge).reverse.dropWhile isEdge).reverse).filter fun c =>
    c != '\t' && c != '\n' && c != '\r'

/-- The path, query and fragment that follow an authority. -/
def readTail (cs : List Char) :
    List (List Char) × Option (List Char) × Option (List Char) :=
  let (front, fragment) := cs.span (· != '#')
  let (path, query) := front.span (· != '?')
  let part (set : EncodeSet) : List Char → Option (List Char)
    | [] => none
    | _ :: cs => some (percentEncode set cs)
  (readPath path, part querySet query, part fragmentSet fragment)

/-- Reads the address of a cluster. The rules of the URI's own scheme are checked before the scheme
itself, and the scheme before the presence of a host. -/
def read? (text : String) : Except Error Uri := do
  let some (scheme, rest) := splitScheme? (cleaned text.toList) | throw .noScheme
  if domainSchemes.contains scheme then
    checkDomainUri rest
    throw (.unsupportedScheme scheme)
  if scheme == fileScheme then
    checkFileUri rest
    throw (.unsupportedScheme scheme)
  let found ← match rest with
    | '/' :: '/' :: rest => (readAuthority rest).map some
    | _ => pure none
  if scheme != plainScheme && scheme != secureScheme then throw (.unsupportedScheme scheme)
  match found with
  | some (⟨username, password, some host, port⟩, rest) =>
    let (path, query, fragment) := readTail rest
    return ⟨scheme == secureScheme, username, password, host, port, path, query, fragment⟩
  | _ => throw .noHost

/-- The text of the user name and password, up to the host. -/
def userinfoText (u : Uri) : List Char :=
  if u.username.isEmpty && u.password.isEmpty then []
  else u.username ++ (if u.password.isEmpty then [] else ':' :: u.password) ++ ['@']

/-- The scheme of an address. -/
def scheme (u : Uri) : String := if u.secure then secureScheme else plainScheme

/-- The text of an address. -/
def text (u : Uri) : String :=
  let port := match u.port with
    | some port => ':' :: decimalDigits port
    | none => []
  let query := match u.query with
    | some query => '?' :: query
    | none => []
  let fragment := match u.fragment with
    | some fragment => '#' :: fragment
    | none => []
  String.ofList (u.scheme.toList ++ [':', '/', '/'] ++ u.userinfoText ++ u.host.text ++ port ++
    pathText u.path ++ query ++ fragment)

/-- The address with another password, which is encoded; an address without a host takes none. -/
def withPassword? (u : Uri) (password : List Char) : Option Uri :=
  if u.host.text.isEmpty then none
  else some { u with password := percentEncode userinfoSet password }

/-- What stands in for a password that must not be shown. -/
def mask : List Char := ['*', '*', '*']

/-- The address with its password masked, if it has one. Where it takes no other, it stays as it
is. -/
def redacted (u : Uri) : Uri := if u.password.isEmpty then u else (u.withPassword? mask).getD u

end Uri

end ClusterGuard
