import ClusterGuard.Endpoint
import ClusterGuard.Proofs.Result

/-!
# Addresses that are shown

The text of an endpoint shows the address with its password masked. A password can be replaced only
in an address with a host, and where that fails the address would be shown as it is, password and
all. What is read has a host, though: a host that is not empty is not empty when it is encoded, and
an address in brackets keeps its brackets.

Results:
* `text_ne_nil_of_readHost`, `host_ne_nil_of_read?`: every address that is read has a host.
* **`redacted_of_read?`**: so its password is masked, if it has one.
* **`display_hides_password`**: what is shown of two addresses that differ in their passwords only
  is the same.
-/

namespace ClusterGuard

namespace Uri

variable {u : Uri}

/-! ## Hosts that are read -/

theorem percentEncode_ne_nil (set : EncodeSet) {cs : List Char} (h : cs ≠ []) :
    percentEncode set cs ≠ [] := by
  cases cs with
  | nil => exact absurd rfl h
  | cons c cs =>
    unfold percentEncode
    rw [List.flatMap_cons]
    refine List.append_ne_nil_of_left_ne_nil ?_ _
    by_cases hc : encodes set c = true
    · rw [if_pos hc]
      intro hnil
      cases hbytes : String.utf8EncodeChar c with
      | nil => exact String.utf8EncodeChar_ne_nil hbytes
      | cons b bytes =>
        rw [hbytes, List.flatMap_cons] at hnil
        exact List.cons_ne_nil _ _ hnil
    · rw [if_neg hc]
      exact List.cons_ne_nil c []

theorem ipv6Text_ne_nil (groups : List Nat) : ipv6Text groups ≠ [] := List.cons_ne_nil _ _

theorem isIpv6_of_readBracketed {cs : List Char} {host : Host}
    (h : readBracketed cs = .ok host) : ∃ groups, host = .ipv6 groups := by
  unfold readBracketed at h
  split at h
  · split at h
    · exact ⟨_, (Except.ok.inj h).symm⟩
    · cases h
  · cases h

/-- A host that is read is not empty. -/
theorem text_ne_nil_of_readHost {cs : List Char} {host : Host}
    (h : readHost cs = .ok (some host)) : host.text ≠ [] := by
  unfold readHost at h
  split at h
  · cases h
  · rename_i cs
    cases hb : readBracketed cs with
    | error e =>
      rw [hb] at h
      cases h
    | ok host' =>
      rw [hb] at h
      obtain rfl : host' = host := Option.some.inj (Except.ok.inj h)
      obtain ⟨groups, rfl⟩ := isIpv6_of_readBracketed hb
      exact ipv6Text_ne_nil groups
  · rename_i hne _
    split at h
    · cases h
    · obtain rfl := Option.some.inj (Except.ok.inj h)
      exact percentEncode_ne_nil [] hne

/-- The host of an authority is one that was read. -/
theorem exists_readHost_of_readAuthority {cs rest : List Char} {a : Authority}
    (h : readAuthority cs = .ok (a, rest)) : ∃ hostText, readHost hostText = .ok a.host := by
  unfold readAuthority at h
  obtain ⟨⟨⟨username, password⟩, hostText, after⟩, -, h⟩ := exists_of_bind_eq_ok h
  obtain ⟨host, hhost, h⟩ := exists_of_bind_eq_ok h
  have hport := of_checked_eq_ok h nofun
  obtain ⟨⟨port, rest'⟩, -, hport⟩ := exists_of_bind_eq_ok hport
  have ha := of_checked_eq_ok hport nofun
  refine ⟨hostText, ?_⟩
  cases ha
  exact hhost

/-- **Every address that is read has a host.** -/
theorem host_ne_nil_of_read? {text : String} (h : read? text = .ok u) : u.host.text ≠ [] := by
  unfold read? at h
  split at h
  · -- The schemes with domain names and that of files are refused, whatever follows them.
    have hother := of_checked_eq_ok h (bind_throw_ne_ok _ _ _ _)
    have hplain := of_checked_eq_ok hother (bind_throw_ne_ok _ _ _ _)
    dsimp only at hplain
    split at hplain
    · obtain ⟨found, hfound, hrest⟩ := exists_of_bind_eq_ok hplain
      obtain ⟨⟨a, tail⟩, hauthority, rfl⟩ := exists_of_map_eq_ok hfound
      obtain ⟨hostText, hhost⟩ := exists_readHost_of_readAuthority hauthority
      have hread := of_checked_eq_ok hrest nofun
      split at hread
      · rename_i heq
        cases heq
        cases hread
        exact text_ne_nil_of_readHost hhost
      · cases hread
    · cases of_checked_eq_ok hplain nofun
  · cases h

/-! ## Passwords -/

theorem percentEncode_mask : percentEncode userinfoSet mask = mask := by decide

/-- An address that was read takes another password. -/
theorem withPassword?_of_read? {text : String} (h : read? text = .ok u) (password : List Char) :
    u.withPassword? password = some { u with password := percentEncode userinfoSet password } := by
  have hhost : ¬u.host.text.isEmpty = true := by
    rw [List.isEmpty_iff]
    exact host_ne_nil_of_read? h
  unfold withPassword?
  rw [if_neg hhost]

/-- **The password of an address that was read is masked**, if it has one. -/
theorem redacted_of_read? {text : String} (h : read? text = .ok u) :
    u.redacted = if u.password = [] then u else { u with password := mask } := by
  unfold redacted
  rw [withPassword?_of_read? h, percentEncode_mask]
  simp only [List.isEmpty_iff, Option.getD_some]

end Uri

namespace Endpoint

theorem read?_of_parse {text : String} {timeout : Duration} {e : Endpoint}
    (h : parse text timeout = .ok e) : Uri.read? text = .ok e.uri := by
  unfold parse at h
  split at h
  · rename_i hread
    cases h
    exact hread
  · cases h

/-- **What is shown does not depend on the password.** Two endpoints whose addresses have passwords
and are the same but for these are shown alike, with the mask in the place of the password. An
address without a password is shown as it is. -/
theorem display_hides_password :
    (∀ text text' timeout timeout' e e', parse text timeout = .ok e →
      parse text' timeout' = .ok e' → e.uri.password ≠ [] → e'.uri.password ≠ [] →
      { e.uri with password := e'.uri.password } = e'.uri → e.text = e'.text) ∧
    (∀ text timeout e, parse text timeout = .ok e → e.uri.password ≠ [] →
      e.uri.withPassword? Uri.mask = some { e.uri with password := Uri.mask } ∧
        e.text = { e.uri with password := Uri.mask }.text) ∧
    ∀ text timeout e, parse text timeout = .ok e → e.uri.password = [] → e.text = e.uri.text := by
  have hmasked : ∀ text timeout e, parse text timeout = .ok e → e.uri.password ≠ [] →
      e.text = { e.uri with password := Uri.mask }.text := by
    intro text timeout e h hp
    unfold Endpoint.text
    rw [Uri.redacted_of_read? (read?_of_parse h), if_neg hp]
  refine ⟨?_, ?_, ?_⟩
  · intro text text' timeout timeout' e e' h h' hp hp' hsame
    rw [hmasked text timeout e h hp, hmasked text' timeout' e' h' hp', ← hsame]
  · intro text timeout e h hp
    refine ⟨?_, hmasked text timeout e h hp⟩
    rw [Uri.withPassword?_of_read? (read?_of_parse h), Uri.percentEncode_mask]
  · intro text timeout e h hp
    unfold Endpoint.text
    rw [Uri.redacted_of_read? (read?_of_parse h), if_pos hp]

/-- The endpoint of a reader with this password. -/
def ofReader (password : List Char) : Endpoint where
  uri := ⟨false, ['o', 'p'], password, .name ['h'], some 7000, [['0']], none, none⟩
  timeout := .zero

/-- A password with a character that is encoded and one that is encoded already are shown alike. -/
theorem shown_of_reader :
    parse "redis://op:a;b@h:7000/0" .zero = .ok (ofReader ['a', '%', '3', 'B', 'b']) ∧
      parse "redis://op:%40:@h:7000/0" .zero = .ok (ofReader ['%', '4', '0', '%', '3', 'A']) ∧
      (ofReader ['a', '%', '3', 'B', 'b']).text = (ofReader ['%', '4', '0', '%', '3', 'A']).text ∧
      (ofReader ['a', '%', '3', 'B', 'b']).text = (ofReader Uri.mask).uri.text ∧
      parse "redis://op@h:7000/0" .zero = .ok (ofReader []) ∧
      (ofReader []).text = (ofReader []).uri.text := by
  have hplain : parse "redis://op:a;b@h:7000/0" .zero
      = .ok (ofReader ['a', '%', '3', 'B', 'b']) := rfl
  have hencoded : parse "redis://op:%40:@h:7000/0" .zero
      = .ok (ofReader ['%', '4', '0', '%', '3', 'A']) := rfl
  have hnone : parse "redis://op@h:7000/0" .zero = .ok (ofReader []) := rfl
  refine ⟨hplain, hencoded, ?_, ?_, hnone, ?_⟩
  · exact display_hides_password.1 _ _ _ _ _ _ hplain hencoded (by decide) (by decide) rfl
  · exact (display_hides_password.2.1 _ _ _ hplain (by decide)).2
  · exact display_hides_password.2.2 _ _ _ hnone rfl

end Endpoint

end ClusterGuard
