import Telemetry.Proofs.Text.Search
import Telemetry.Proofs.Url.Percent
import Telemetry.Url.Host

/-!
# Domains in ASCII

Bringing a domain into ASCII and small letters leaves a text of small ASCII characters that a
domain may hold (`isDomainChar_of_domainToAscii`), and such a text is left as it is by all that is
done to a domain (`domainToAscii_of_isDomainChar`): it holds no escape, no capital, no full stop of
another script and no label to be written in ASCII. So a domain is brought into its form once and
for all.
-/

namespace Telemetry

open Text (IsSmall)

namespace Punycode

/-! ## Labels written in ASCII -/

theorem isSmall_digit {n : Nat} (h : n < 36) : IsSmall (digit n) := by
  have hall : ∀ n < 36, (digit n).toNat < 0x80 ∧ (digit n).isUpper = false := by decide
  exact hall n h

theorem isSmall_of_mem_digits {bias place n : Nat} {c : Char} (h : c ∈ digits bias place n) :
    IsSmall c := by
  induction n using Nat.strongRecOn generalizing place with
  | ind n ih =>
    have hlow := one_le_threshold bias place
    have hhigh : threshold bias place ≤ 26 := by
      unfold threshold
      omega
    rw [digits] at h
    split at h
    · rw [List.mem_singleton] at h
      rw [h]
      exact isSmall_digit (by omega)
    · rcases List.mem_cons.1 h with rfl | h
      · have hmod := Nat.mod_lt (n - threshold bias place)
          (by omega : 0 < 36 - threshold bias place)
        exact isSmall_digit (by omega)
      · have hle := Nat.div_le_self (n - threshold bias place) (36 - threshold bias place)
        exact ih _ (by omega) h

theorem isSmall_of_mem_pass {basic code : Nat} {p : Progress} (hp : ∀ c ∈ p.written, IsSmall c)
    (d : Char) : ∀ c ∈ (pass basic code p d).written, IsSmall c := by
  rw [pass]
  split
  · exact hp
  · split
    · intro c hc
      rcases List.mem_append.1 hc with hc | hc
      · exact hp c hc
      · exact isSmall_of_mem_digits hc
    · exact hp

theorem isSmall_of_mem_passes {basic code : Nat} (label : List Char) {p : Progress}
    (hp : ∀ c ∈ p.written, IsSmall c) :
    ∀ c ∈ (label.foldl (pass basic code) p).written, IsSmall c := by
  induction label generalizing p with
  | nil => exact hp
  | cons d label ih => exact ih (isSmall_of_mem_pass hp d)

theorem isSmall_of_mem_insertAll {label : List Char} {basic : Nat} {codes : List Nat}
    {passed : Nat} {p : Progress} (hp : ∀ c ∈ p.written, IsSmall c) :
    ∀ c ∈ (insertAll label basic codes passed p).written, IsSmall c := by
  induction codes generalizing passed p with
  | nil => exact hp
  | cons code codes ih =>
    rw [insertAll]
    exact ih (isSmall_of_mem_passes label hp)

/-- A label without capitals is written in small characters of ASCII. -/
theorem isSmall_of_mem_encode {label : List Char} (h : ∀ c ∈ label, c.isUpper = false) {c : Char}
    (hc : c ∈ encode label) : IsSmall c := by
  rw [encode, List.mem_append, List.mem_append] at hc
  rcases hc with (hc | hc) | hc
  · obtain ⟨hmem, hascii⟩ := List.mem_filter.1 hc
    exact ⟨by simpa using hascii, h c hmem⟩
  · split at hc
    · simp at hc
    · rw [List.mem_singleton] at hc
      rw [hc]
      exact ⟨by decide, by decide⟩
  · exact isSmall_of_mem_insertAll (by simp) c hc

end Punycode

namespace Host

/-! ## The characters of a domain -/

/-- A character of a domain in ASCII and small letters. -/
def IsDomainChar (c : Char) : Prop := IsSmall c ∧ isForbiddenInDomain c = false

theorem isUpper_plainStop {c : Char} (h : c.isUpper = false) : (plainStop c).isUpper = false := by
  rw [plainStop]
  split
  · decide
  · exact h

theorem isSmall_of_mem_labelToAscii {label : List Char} (h : ∀ c ∈ label, c.isUpper = false)
    {c : Char} (hc : c ∈ labelToAscii label) : IsSmall c := by
  rw [labelToAscii] at hc
  split at hc
  · next hascii =>
    rw [List.all_eq_true] at hascii
    exact ⟨by simpa using hascii c hc, h c hc⟩
  · rcases List.mem_append.1 hc with hc | hc
    · have hall : (['x', 'n', '-', '-'].all fun c ↦ c.toNat < 0x80 ∧ c.isUpper = false) = true := by
        decide
      have hsmall := List.all_eq_true.1 hall c hc
      rwa [decide_eq_true_eq] at hsmall
    · exact Punycode.isSmall_of_mem_encode h hc

/-- What a domain is brought to is made of characters that a domain may hold. -/
theorem isDomainChar_of_domainToAscii {cs domain : List Char}
    (h : domainToAscii cs = .ok domain) : ∀ c ∈ domain, IsDomainChar c := by
  rw [domainToAscii] at h
  split at h
  · cases h
  · next text _ =>
    dsimp only at h
    split at h
    · cases h
    · next hany =>
      cases h
      intro c hc
      have hallowed : isForbiddenInDomain c = false := by
        rw [List.any_eq_true] at hany
        exact Bool.eq_false_iff.2 fun hforbidden ↦ hany ⟨c, hc, hforbidden⟩
      refine ⟨?_, hallowed⟩
      rcases Text.mem_joinWith hc with hc | ⟨ascii, hascii, hc⟩
      · rw [List.mem_singleton] at hc
        rw [hc]
        exact ⟨by decide, by decide⟩
      · obtain ⟨label, hlabel, rfl⟩ := List.mem_map.1 hascii
        refine isSmall_of_mem_labelToAscii (fun d hd ↦ ?_) hc
        obtain ⟨e, he, rfl⟩ := List.mem_map.1 (Text.of_mem_splitOnChar hlabel hd).1
        exact isUpper_plainStop (Text.isUpper_of_mem_lowerChars he)

/-! ## Domains that are in their form already -/

theorem plainStop_of_ascii {c : Char} (h : c.toNat < 0x80) : plainStop c = c :=
  Text.forall_ascii (p := fun c ↦ plainStop c = c) (by decide) h

/-- An escape needs a percent sign, which no domain holds. -/
theorem not_holdsEscape_of_isDomainChar {cs : List Char} (h : ∀ c ∈ cs, IsDomainChar c) :
    ¬ Percent.HoldsEscape cs := by
  rintro ⟨a, b, hinside, -⟩
  have hforbidden := (h '%' (hinside.subset List.mem_cons_self)).2
  revert hforbidden
  decide

theorem labelToAscii_of_ascii {label : List Char} (h : ∀ c ∈ label, c.toNat < 0x80) :
    labelToAscii label = label := by
  have hall : (label.all fun c ↦ c.toNat < 0x80) = true := by
    rw [List.all_eq_true]
    exact fun c hc ↦ decide_eq_true (h c hc)
  rw [labelToAscii, if_pos hall]

/-- A text of characters that a domain may hold stays as it is. -/
theorem domainToAscii_of_isDomainChar {cs : List Char} (h : ∀ c ∈ cs, IsDomainChar c) :
    domainToAscii cs = .ok cs := by
  have hdecode : Utf8.decode (Percent.decode cs) = .ok (String.ofList cs) := by
    rw [Percent.decode_of_not_holdsEscape (not_holdsEscape_of_isDomainChar h),
      Utf8.decode_encodeChars]
  have hlower : Text.lowerChars cs = cs := Text.lowerChars_of_isSmall fun c hc ↦ (h c hc).1
  have hstop : cs.map plainStop = cs :=
    (List.map_congr_left fun c hc ↦ plainStop_of_ascii (h c hc).1.1).trans (List.map_id cs)
  have hlabels : (Text.splitOnChar (· = '.') cs).map labelToAscii =
      Text.splitOnChar (· = '.') cs := by
    refine (List.map_congr_left fun label hlabel ↦ labelToAscii_of_ascii fun c hc ↦ ?_).trans
      (List.map_id _)
    exact (h c (Text.of_mem_splitOnChar hlabel hc).1).1.1
  have hallowed : cs.any isForbiddenInDomain = false := by
    rw [List.any_eq_false]
    exact fun c hc ↦ Bool.eq_false_iff.1 (h c hc).2
  rw [domainToAscii, hdecode]
  dsimp only
  rw [String.toList_ofList, hlower, hstop, hlabels, Text.joinWith_splitOnChar, hallowed]
  rfl

/-- A text that begins with no bracket is read as a name. -/
theorem readWith_of_isDomainChar {cs : List Char} (h : ∀ c ∈ cs, IsDomainChar c)
    (name : List Char → Except UrlError Host) : readWith name cs = name cs := by
  rw [readWith]
  intro rest hcs
  have hforbidden := (h '[' (by rw [hcs]; exact List.mem_cons_self)).2
  revert hforbidden
  decide

/-- A domain in its form is read as an address if its last part is a number, and as itself
otherwise. -/
theorem readWeb_of_isDomainChar {cs : List Char} (h : ∀ c ∈ cs, IsDomainChar c) (hne : cs ≠ []) :
    readWeb cs = if endsInNumber cs then readIpv4 cs else .ok (.name cs) := by
  have hempty : cs.isEmpty = false := by simpa using hne
  rw [readWeb, readWith_of_isDomainChar h, domainToAscii_of_isDomainChar h]
  change (if cs.isEmpty = true then _ else _) = _
  rw [hempty]
  rfl

/-! ## Marks in a domain -/

/-- A label in ASCII still holds its characters of ASCII. -/
theorem mem_labelToAscii_of_mem {label : List Char} {c : Char} (h : c ∈ label)
    (hc : c.toNat < 0x80) : c ∈ labelToAscii label := by
  rw [labelToAscii]
  split
  · exact h
  · rw [List.mem_append, Punycode.encode]
    refine .inr (List.mem_append_left _ (List.mem_append_left _ ?_))
    exact List.mem_filter.2 ⟨h, by simpa using hc⟩

/-- A colon is left in a domain whatever is done to it, so that a text with a colon is none. -/
theorem domainToAscii_ne_ok_of_colon {cs domain : List Char} (h : ':' ∈ cs) :
    domainToAscii cs ≠ .ok domain := by
  intro hdomain
  rw [domainToAscii] at hdomain
  split at hdomain
  · cases hdomain
  · next text hdecode =>
    dsimp only at hdomain
    have hbyte := Percent.mem_decode_of_mem h (by decide) (by decide) (by decide)
    rw [Utf8.decode_eq_ok_iff.1 hdecode] at hbyte
    obtain ⟨c, hc, hcode⟩ := Utf8.exists_mem_of_mem_encodeChars hbyte (by decide)
    obtain rfl : c = ':' := Char.toNat_inj.1 hcode
    have hlower := Text.mem_lowerChars_of_isSmall hc ⟨by decide, by decide⟩
    have hstops := List.mem_map_of_mem (f := plainStop) hlower
    obtain ⟨label, hlabel, hmem⟩ := Text.exists_mem_splitOnChar hstops (show ':' ≠ '.' by decide)
    have hascii := Text.mem_joinWith_of_mem ['.'] (List.mem_map_of_mem (f := labelToAscii) hlabel)
      (mem_labelToAscii_of_mem hmem (by decide))
    rw [if_pos (List.any_eq_true.2 ⟨_, hascii, by decide⟩)] at hdomain
    cases hdomain

theorem readWeb_ne_ok_of_colon {cs : List Char} {host : Host} (h : ':' ∈ cs)
    (hbracket : ∀ c ∈ cs.head?, c ≠ '[') : readWeb cs ≠ .ok host := by
  intro hread
  rw [readWeb, readWith] at hread
  · cases hdomain : domainToAscii cs with
    | error e =>
      rw [hdomain] at hread
      cases hread
    | ok domain => exact domainToAscii_ne_ok_of_colon h hdomain
  · rintro rest rfl
    exact hbracket '[' rfl rfl

end Host

end Telemetry
