import ClusterGuard.Uri.Label
import ClusterGuard.Uri.Path

/-!
# URIs with domain names

No scheme with domain names addresses a cluster, but a URI of such a scheme is first checked by the
rules of its own scheme: its host is a domain name or a numeric address, and must not be empty. The
characters of the host may be written as they are, as percent escapes of their bytes, or within
encoded labels.
-/

namespace ClusterGuard.Uri

/-- The schemes whose hosts are domain names, files apart. -/
def domainSchemes : List String := ["http", "https", "ws", "wss", "ftp"]

/-- The scheme of files. -/
def fileScheme : String := "file"

/-- The bytes a text stands for, percent escapes decoded. -/
def percentDecode : List Char → List UInt8
  | [] => []
  | '%' :: a :: b :: rest =>
    match hexValue? a, hexValue? b with
    | some x, some y => UInt8.ofNat (x * 16 + y) :: percentDecode rest
    | _, _ => '%'.toNat.toUInt8 :: percentDecode (a :: b :: rest)
  | c :: rest => String.utf8EncodeChar c ++ percentDecode rest
termination_by cs => cs.length

/-- Checks the host of a URI with domain names. -/
def checkDomain (cs : List Char) : Except Error Unit := do
  match cs with
  | '[' :: cs => discard (readBracketed cs)
  | cs =>
    match (String.fromUTF8? ⟨(percentDecode cs).toArray⟩).bind (labels? ·.toList) with
    | none => throw .badDomain
    | some labels =>
      let name := joinWith '.' labels
      if name.isEmpty then throw .emptyHost
      if endsInNumber name && !isIpv4 name then throw .badIpv4

/-- Checks what follows the scheme of a URI with domain names. -/
def checkDomainUri (cs : List Char) : Except Error Unit := do
  let (_, host, rest) ← splitAuthority true (cs.dropWhile fun c => c == '/' || c == '\\')
  if host.isEmpty then throw .emptyHost
  checkDomain host
  discard (readPortAfter rest)

/-- Checks what follows the scheme of a file. -/
def checkFileUri (cs : List Char) : Except Error Unit :=
  match cs with
  | a :: b :: rest =>
    let host := rest.takeWhile (!endsAuthority true ·)
    if (a == '/' || a == '\\') && (b == '/' || b == '\\') && !host.isEmpty &&
        !(isDrive host && host.length == 2) then checkDomain host
    else .ok ()
  | _ => .ok ()

end ClusterGuard.Uri
