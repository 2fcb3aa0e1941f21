import Telemetry.Proofs.Outcome
import Telemetry.Proofs.Url.Ipv4
import Telemetry.Proofs.Url.Ipv6
import Telemetry.Url.Reader

/-!
# Hosts that stand in a url

Whatever way a host was read, what is shown of it is read back to the same host, and nothing in it
would be taken for the user before it, for the port or for the path behind it (`Stands`). Of a
domain that is so because of its characters; the colons of an address of eight pieces stand between
brackets, where no port is looked for.
-/

namespace Telemetry.Host

open Url (splitPort)

variable {cs : List Char} {host : Host}

/-! ## What a host is to its url -/

/-- What stands behind a host, up to its path. -/
def IsPortText (rest : List Char) : Prop := rest = [] ∨ ∃ digits, rest = ':' :: digits

/-- A host that is read back from its text, also between the other parts of a url. -/
structure Stands (readHost : List Char → Except UrlError Host) (host : Host) : Prop where
  ne_nil : host.text ≠ []
  read_text : readHost host.text = .ok host
  safe : ∀ c ∈ host.text, 0x20 < c.toNat ∧ c ∉ ['/', '\\', '?', '#', '@']
  splitPort_text : ∀ rest, IsPortText rest → splitPort false (host.text ++ rest) = (host.text, rest)

/-! ## Where the port begins -/

theorem splitPort_portText {rest : List Char} (h : IsPortText rest) :
    splitPort false rest = ([], rest) := by
  rcases h with rfl | ⟨digits, rfl⟩
  · rfl
  · rw [splitPort]
    rfl

theorem splitPort_append (h : ∀ c ∈ cs, c ≠ ':' ∧ c ≠ '[' ∧ c ≠ ']') {rest : List Char}
    (hrest : IsPortText rest) : splitPort false (cs ++ rest) = (cs, rest) := by
  induction cs with
  | nil => exact splitPort_portText hrest
  | cons c cs ih =>
    obtain ⟨⟨hcolon, hopen, hclose⟩, hcs⟩ := List.forall_mem_cons.1 h
    rw [List.cons_append, splitPort]
    simp [hcolon, hopen, hclose, ih hcs]

/-- Between brackets colons do not count. -/
theorem splitPort_inside (h : ∀ c ∈ cs, c ≠ ']') {rest : List Char} (hrest : IsPortText rest) :
    splitPort true (cs ++ ']' :: rest) = (cs ++ [']'], rest) := by
  induction cs with
  | nil =>
    rw [List.nil_append, splitPort]
    simp [splitPort_portText hrest]
  | cons c cs ih =>
    obtain ⟨hclose, hcs⟩ := List.forall_mem_cons.1 h
    rw [List.cons_append, splitPort]
    simp [hclose, ih hcs]

/-! ## Names and addresses of four bytes -/

/-- A character that a host may hold outside of brackets. -/
def IsHostChar (c : Char) : Prop := isForbidden c = false ∧ 0x20 < c.toNat

theorem IsHostChar.ne {c d : Char} (h : IsHostChar c) (hd : isForbidden d = true) : c ≠ d := by
  rintro rfl
  rw [h.1] at hd
  cases hd

theorem IsDomainChar.isHostChar {c : Char} (h : IsDomainChar c) : IsHostChar c := by
  refine Text.forall_ascii (p := fun c ↦ isForbiddenInDomain c = false → IsHostChar c) ?_ h.1.1 h.2
  unfold IsHostChar
  decide

theorem stands_of_isHostChar {readHost : List Char → Except UrlError Host} (hne : host.text ≠ [])
    (hread : readHost host.text = .ok host) (h : ∀ c ∈ host.text, IsHostChar c) :
    Stands readHost host where
  ne_nil := hne
  read_text := hread
  safe c hc := by
    refine ⟨(h c hc).2, ?_⟩
    have hall : ['/', '\\', '?', '#', '@'].all isForbidden = true := by decide
    exact fun hmem ↦ (h c hc).ne (List.all_eq_true.1 hall c hmem) rfl
  splitPort_text _ hrest := by
    refine splitPort_append (fun c hc ↦ ?_) hrest
    exact ⟨(h c hc).ne (by decide), (h c hc).ne (by decide), (h c hc).ne (by decide)⟩

/-! ## Addresses of eight pieces -/

theorem of_mem_ipv6Text {pieces : List Nat} {c : Char} (h : c ∈ ipv6Text pieces) :
    c = ':' ∨ (Percent.value? c).isSome := by
  have hpieces {ns : List Nat} (h : c ∈ piecesText ns) : c = ':' ∨ (Percent.value? c).isSome := by
    rcases Text.mem_joinWith h with h | ⟨digits, hdigits, h⟩
    · exact .inl (List.mem_singleton.1 h)
    · obtain ⟨n, -, rfl⟩ := List.mem_map.1 hdigits
      exact .inr (isSome_of_mem_hexDigits h)
  rw [ipv6Text] at h
  split at h
  · exact hpieces h
  · rw [List.mem_append, List.mem_append] at h
    rcases h with (h | h) | h
    · exact hpieces h
    · simp at h
      exact .inl h
    · exact hpieces h

theorem readWith_ipv6 {pieces : List Nat} (h : IsAddress pieces)
    (name : List Char → Except UrlError Host) :
    readWith name (Host.ipv6 pieces).text = .ok (.ipv6 pieces) := by
  change (if (ipv6Text pieces ++ [']']).getLast? = some ']' then
    readIpv6 (ipv6Text pieces ++ [']']).dropLast else _) = _
  rw [List.getLast?_concat, if_pos rfl, List.dropLast_concat]
  exact readIpv6_ipv6Text h

theorem stands_ipv6 {pieces : List Nat} (h : IsAddress pieces)
    (name : List Char → Except UrlError Host) : Stands (readWith name) (.ipv6 pieces) where
  ne_nil := List.cons_ne_nil _ _
  read_text := readWith_ipv6 h name
  safe c hc := by
    have hdigit : (Percent.value? c).isSome →
        0x20 < c.toNat ∧ c ∉ ['/', '\\', '?', '#', '@'] := fun hsome ↦
      Text.forall_ascii (p := fun c ↦ (Percent.value? c).isSome →
        0x20 < c.toNat ∧ c ∉ ['/', '\\', '?', '#', '@']) (by decide)
        (Percent.ascii_of_value? hsome) hsome
    rw [Host.text, List.cons_append, List.mem_cons, List.mem_append, List.mem_singleton] at hc
    rcases hc with rfl | hc | rfl
    · decide
    · rcases of_mem_ipv6Text hc with rfl | hsome
      · decide
      · exact hdigit hsome
    · decide
  splitPort_text rest hrest := by
    have hclose : ∀ c ∈ ipv6Text pieces, c ≠ ']' := by
      rintro c hc rfl
      rcases of_mem_ipv6Text hc with h | h
      · cases h
      · revert h
        decide
    rw [Host.text, List.cons_append, List.cons_append, List.append_assoc, splitPort]
    simp [splitPort_inside hclose hrest]

/-! ## What is read -/

/-- A host is an address in brackets, or it was read as a name. -/
theorem of_readWith {name : List Char → Except UrlError Host} (h : readWith name cs = .ok host) :
    (∃ pieces, host = .ipv6 pieces ∧ IsAddress pieces) ∨ name cs = .ok host := by
  unfold readWith at h
  split at h
  · split at h
    · exact .inl (ipv6_of_readIpv6 h)
    · cases h
  · exact .inr h

/-- The host of a web address stands in its url. -/
theorem stands_of_readWeb (h : readWeb cs = .ok host) : Stands readWeb host := by
  rcases of_readWith h with ⟨pieces, rfl, haddress⟩ | h
  · exact stands_ipv6 haddress _
  · obtain ⟨domain, hdomain, h⟩ := bind_eq_ok_iff.1 h
    have hchars := isDomainChar_of_domainToAscii hdomain
    obtain ⟨hne, h⟩ := ite_error_eq_ok_iff.1 h
    have hne : domain ≠ [] := by simpa using hne
    split at h
    · -- The domain ends in a number, and is an address of four bytes.
      obtain ⟨address, hlt, rfl⟩ := ipv4_of_readIpv4 h
      exact stands_of_isHostChar (ipv4Text_ne_nil address) (readWeb_ipv4Text hlt)
        fun c hc ↦ (isDomainChar_of_mem_ipv4Text hc).isHostChar
    · next hnumber =>
      cases h
      refine stands_of_isHostChar hne ?_ fun c hc ↦ (hchars c hc).isHostChar
      change readWeb domain = _
      rw [readWeb_of_isDomainChar hchars hne, if_neg hnumber]

/-- The name of a host that is taken as it is written holds no character that a host may not hold,
also after it was encoded. -/
theorem isHostChar_of_mem_encode (h : ∀ c ∈ cs, isForbidden c = false) {c : Char}
    (hc : c ∈ Percent.encode Percent.controls cs) : IsHostChar c := by
  have hplain := Percent.sparesEscapes_controls.isPlain_encode cs c hc
  have hallowed : isForbidden c = false := by
    rcases Percent.of_mem_encode hc with ⟨hmem, -⟩ | rfl | hdigit
    · exact h c hmem
    · decide
    · exact Text.forall_ascii (p := fun c ↦ (Percent.value? c).isSome → isForbidden c = false)
        (by decide) hplain.1 hdigit
  refine ⟨hallowed, ?_⟩
  exact Text.forall_ascii (p := fun c ↦ Percent.controls c = false → isForbidden c = false →
    0x20 < c.toNat) (by decide) hplain.1 hplain.2 hallowed

/-- A host that is taken as it is written stands in its url. -/
theorem stands_of_read (h : read cs = .ok host) (hne : cs ≠ []) : Stands read host := by
  rcases of_readWith h with ⟨pieces, rfl, haddress⟩ | h
  · exact stands_ipv6 haddress _
  · obtain ⟨hallowed, h⟩ := ite_error_eq_ok_iff.1 h
    rw [Bool.not_eq_true, List.any_eq_false] at hallowed
    cases h
    have hchars {c : Char} (hc : c ∈ Percent.encode Percent.controls cs) : IsHostChar c :=
      isHostChar_of_mem_encode (fun d hd ↦ Bool.eq_false_iff.2 (hallowed d hd)) hc
    refine stands_of_isHostChar (Percent.encode_ne_nil hne) ?_ fun c ↦ hchars
    have hany : (Percent.encode Percent.controls cs).any isForbidden = false := by
      rw [List.any_eq_false]
      exact fun c hc ↦ Bool.eq_false_iff.1 (hchars hc).1
    have hbracket : ∀ rest, Percent.encode Percent.controls cs ≠ '[' :: rest := by
      intro rest heq
      exact (hchars (by rw [heq]; exact List.mem_cons_self)).ne (by decide) rfl
    rw [Host.text, read, readWith]
    · rw [hany, Percent.encode_encode Percent.sparesEscapes_controls]
      rfl
    · exact hbracket

end Telemetry.Host
