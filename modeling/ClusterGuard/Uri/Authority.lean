import ClusterGuard.Uri.Address
import ClusterGuard.Uri.Error
import ClusterGuard.Uri.Percent

/-!
# Authorities

The authority of a URI names a host, optionally with a user name, a password and a port. The host
is an IPv6 address in brackets or, kept as it is written, a name.
-/

namespace ClusterGuard.Uri

/-- A host. -/
inductive Host where
  | name (text : List Char)
  | ipv6 (groups : List Nat)
deriving DecidableEq

/-- The text of a host. -/
def Host.text : Host → List Char
  | name text => text
  | ipv6 groups => ipv6Text groups

/-- What stands before the path of a URI. -/
structure Authority where
  username : List Char
  /-- Empty if there is no password. -/
  password : List Char
  /-- Absent if the host is empty. -/
  host : Option Host
  port : Option Nat

/-- Where an authority ends; with domain names a backslash counts as a slash. -/
def endsAuthority (domains : Bool) (c : Char) : Bool :=
  c == '/' || c == '?' || c == '#' || (domains && c == '\\')

/-- What stands before and after the last `@`. -/
def splitUserinfo? (cs : List Char) : Option (List Char × List Char) :=
  match cs.reverse.span (· != '@') with
  | (_, []) => none
  | (after, _ :: before) => some (before.reverse, after.reverse)

/-- The encoded user name and password. -/
def readUserinfo (cs : List Char) : List Char × List Char :=
  match cs.span (· != ':') with
  | (username, rest) =>
    (percentEncode userinfoSet username, percentEncode userinfoSet (rest.drop 1))

/-- A host and what follows it: a colon ends it except between brackets. -/
def spanHost (bracketed : Bool) : List Char → List Char × List Char
  | [] => ([], [])
  | c :: cs =>
    if c = ':' ∧ !bracketed then ([], c :: cs)
    else
      let (host, rest) := spanHost (if c = '[' then true else if c = ']' then false else bracketed) cs
      (c :: host, rest)

/-- An IPv6 address in brackets, given without the opening one. -/
def readBracketed (cs : List Char) : Except Error Host :=
  if cs.getLast? = some ']' then
    match ipv6? cs.dropLast with
    | some groups => .ok (.ipv6 groups)
    | none => .error .badIpv6
  else .error .badIpv6

/-- The characters a host name must not hold. -/
def hostNameBans : List Char :=
  ['\x00', '\t', '\n', '\r', ' ', '#', '/', ':', '<', '>', '?', '@', '[', '\\', ']', '^', '|']

/-- A host, kept as it is written. -/
def readHost : List Char → Except Error (Option Host)
  | [] => .ok none
  | '[' :: cs => (readBracketed cs).map some
  | cs =>
    if cs.any hostNameBans.contains then .error .badHostCharacter
    else .ok (some (.name (percentEncode [] cs)))

/-- A port, and what follows it; no digits at all stand for no port. -/
def readPort (cs : List Char) : Except Error (Option Nat × List Char) :=
  let (digits, rest) := cs.span Char.isDigit
  match readDigits? 10 digits with
  | none => .error .badPort
  | some port =>
    if 65535 < port || !(rest.head?.all (endsAuthority true)) then .error .badPort
    else .ok (if digits.isEmpty then none else some port, rest)

/-- The port after a host, if a colon follows it. -/
def readPortAfter : List Char → Except Error (Option Nat × List Char)
  | ':' :: cs => readPort cs
  | cs => .ok (none, cs)

/-- The user name and password, the host and what follows it. -/
def splitAuthority (domains : Bool) (cs : List Char) :
    Except Error ((List Char × List Char) × List Char × List Char) :=
  let (authority, rest) := cs.span (!endsAuthority domains ·)
  match splitUserinfo? authority with
  | none =>
    let (host, after) := spanHost false authority
    .ok (([], []), host, after ++ rest)
  | some (userinfo, authority) =>
    if userinfo.isEmpty && authority.isEmpty && !rest.isEmpty then .error .emptyHost
    else
      let (host, after) := spanHost false authority
      .ok (readUserinfo userinfo, host, after ++ rest)

/-- Reads what follows the two slashes of a URI without domain names: its authority, and the rest.
An empty host is accepted only where the whole authority is empty. -/
def readAuthority (cs : List Char) : Except Error (Authority × List Char) := do
  let ((username, password), hostText, rest) ← splitAuthority false cs
  let host ← readHost hostText
  if host.isNone && rest.head? == some ':' then throw .emptyHost
  let (port, rest) ← readPortAfter rest
  if host.isNone && !(username.isEmpty && password.isEmpty) then throw .emptyHost
  return (⟨username, password, host, port⟩, rest)

end ClusterGuard.Uri
