import Telemetry.Proofs.Text.Decoded
import Telemetry.Text.Case

/-!
# Lower-casing twice

A lower-cased text holds no capital of ASCII, whatever it was (`isUpper_of_mem_lowerChars`): the
letters of other scripts whose small letters are in ASCII have those as well. A text of ASCII
without capitals is its own lower case (`lowerChars_of_isSmall`). Apart from two letters, the
letters of ASCII in a lower-cased text come from the same letters
(`exists_toLower_of_mem_lowerChars`).
-/

namespace Telemetry.Text

/-- What holds of the characters below 128 one by one. -/
theorem forall_ascii {p : Char → Prop} (h : ∀ n < 0x80, p (Char.ofNat n)) {c : Char}
    (hc : c.toNat < 0x80) : p c := by
  have := h c.toNat hc
  rwa [Char.ofNat_toNat] at this

/-- Letters and digits are only looked for in ASCII. -/
theorem ascii_of_isAlphanum {c : Char} (h : c.isAlphanum = true) : c.toNat < 0x80 := by
  rcases Bool.or_eq_true_iff.1 h with halpha | hdigit
  · rcases Bool.or_eq_true_iff.1 halpha with hupper | hlower
    · have hle : c.toNat ≤ 0x5A := (of_decide_eq_true hupper).2
      omega
    · have hle : c.toNat ≤ 0x7A := of_decide_eq_true (Bool.and_eq_true_iff.1 hlower).2
      omega
  · have hle : c.toNat ≤ 0x39 := of_decide_eq_true (Bool.and_eq_true_iff.1 hdigit).2
    omega

/-- A character of ASCII that is no capital. -/
def IsSmall (c : Char) : Prop := c.toNat < 0x80 ∧ c.isUpper = false

/-! ## No capitals are left -/

theorem isUpper_toLower (c : Char) (hc : c.toNat < 0x80) : c.toLower.isUpper = false :=
  forall_ascii (p := fun c ↦ c.toLower.isUpper = false) (by decide) hc

/-- A character above the capitals of ASCII is none of them. -/
theorem isUpper_of_lt {c : Char} (h : 0x5A < c.toNat) : c.isUpper = false := by
  rw [← Bool.not_eq_true]
  intro hupper
  have hle : c.toNat ≤ 0x5A := (of_decide_eq_true hupper).2
  omega

theorem isUpper_ofNat {n : Nat} (h : 0x5A < n) : (Char.ofNat n).isUpper = false := by
  by_cases hvalid : n.isValidChar
  · have hvalue : (Char.ofNat n).toNat = n := Utf8.toNat_ofNat_of_isScalar hvalid
    exact isUpper_of_lt (by rwa [hvalue])
  · rw [Char.ofNat, dif_neg hvalid]
    decide

/-- The small letters for the capitals outside of ASCII lie above the capitals of ASCII. -/
theorem lt_shift_of_mem_caseRuns :
    ∀ r ∈ caseRuns, 0x80 ≤ r.last → 0x5A < (r.first : Int) + r.shift := by
  decide +kernel

theorem lt_lowerCode {n : Nat} (h : 0x80 ≤ n) : 0x5A < lowerCode n := by
  rw [lowerCode]
  split
  · next r hfind =>
    have hmem := List.mem_of_find?_eq_some hfind
    have hrange := List.find?_some hfind
    simp only [Bool.and_eq_true, decide_eq_true_eq] at hrange
    have hshift := lt_shift_of_mem_caseRuns r hmem (by omega)
    omega
  · omega

theorem isUpper_of_mem_lowerChar {c d : Char} (h : d ∈ lowerChar c) : d.isUpper = false := by
  rw [lowerChar] at h
  by_cases hc : c.toNat < 0x80
  · rw [if_pos hc, List.mem_singleton] at h
    rw [h]
    exact isUpper_toLower c hc
  · rw [if_neg hc] at h
    split at h
    · rw [List.mem_cons, List.mem_singleton] at h
      rcases h with rfl | rfl <;> decide
    · rw [List.mem_singleton] at h
      rw [h]
      exact isUpper_ofNat (lt_lowerCode (by omega))

theorem isUpper_of_mem_lowerFrom {before cs : List Char} {d : Char} (h : d ∈ lowerFrom before cs) :
    d.isUpper = false := by
  induction cs generalizing before with
  | nil => simp [lowerFrom] at h
  | cons c cs ih =>
    rw [lowerFrom, List.mem_append] at h
    rcases h with h | h
    · split at h
      · rw [List.mem_singleton] at h
        rw [h]
        split <;> decide
      · exact isUpper_of_mem_lowerChar h
    · exact ih h

theorem isUpper_of_mem_lowerChars {cs : List Char} {d : Char} (h : d ∈ lowerChars cs) :
    d.isUpper = false := isUpper_of_mem_lowerFrom h

/-! ## Nothing is lost -/

theorem lowerChar_ne_nil (c : Char) : lowerChar c ≠ [] := by
  rw [lowerChar]
  split
  · exact List.cons_ne_nil _ _
  · split <;> exact List.cons_ne_nil _ _

/-- No character is dropped, so only the empty text becomes empty. -/
theorem lower_eq_empty_iff {s : String} : lower s = "" ↔ s = "" := by
  rw [← String.toList_eq_nil_iff, ← String.toList_eq_nil_iff, lower, String.toList_ofList,
    lowerChars]
  cases s.toList with
  | nil => exact iff_of_true rfl rfl
  | cons c cs =>
    refine iff_of_false (fun h ↦ ?_) (List.cons_ne_nil c cs)
    rw [lowerFrom, List.append_eq_nil_iff] at h
    by_cases hsigma : c = 'Σ'
    · rw [if_pos hsigma] at h
      exact List.cons_ne_nil _ _ h.1
    · rw [if_neg hsigma] at h
      exact lowerChar_ne_nil c h.1

/-! ## Where a letter of ASCII comes from -/

/-- The only small letter of ASCII that a capital outside of it shifts to is that of the Kelvin
sign. -/
theorem shift_of_mem_caseRuns :
    ∀ r ∈ caseRuns, 0x80 ≤ r.last → 0x80 ≤ r.first + r.shift ∨
      (r.first = r.last ∧ r.first + r.shift = 'k'.toNat) := by
  decide +kernel

theorem lowerCode_of_lt {n : Nat} (h : 0x80 ≤ n) (hlt : lowerCode n < 0x80) :
    lowerCode n = 'k'.toNat := by
  rw [lowerCode] at hlt ⊢
  split at hlt
  · next r hfind =>
    have hmem := List.mem_of_find?_eq_some hfind
    have hrange := List.find?_some hfind
    simp only [Bool.and_eq_true, decide_eq_true_eq] at hrange
    rcases shift_of_mem_caseRuns r hmem (by omega) with hshift | ⟨hone, hshift⟩
    · omega
    · omega
  · omega

/-- A letter of ASCII in a small form is that of the same letter, or of a capital outside of ASCII
with its small form in it. -/
theorem toLower_of_mem_lowerChar {c d : Char} (h : d ∈ lowerChar c) (hpos : 0 < d.toNat)
    (hlt : d.toNat < 0x80) : c.toLower = d ∨ d = 'i' ∨ d = 'k' := by
  rw [lowerChar] at h
  by_cases hc : c.toNat < 0x80
  · rw [if_pos hc, List.mem_singleton] at h
    exact .inl h.symm
  · rw [if_neg hc] at h
    split at h
    · rw [List.mem_cons, List.mem_singleton] at h
      rcases h with rfl | rfl
      · exact .inr (.inl rfl)
      · exact absurd hlt (by decide)
    · rw [List.mem_singleton] at h
      by_cases hvalid : (lowerCode c.toNat).isValidChar
      · rw [h, Utf8.toNat_ofNat_of_isScalar hvalid] at hlt
        rw [h, lowerCode_of_lt (by omega) hlt, Char.ofNat_toNat]
        exact .inr (.inr rfl)
      · rw [h, Char.ofNat, dif_neg hvalid] at hpos
        exact absurd hpos (by decide)

theorem exists_toLower_of_mem_lowerChars {cs : List Char} {d : Char} (h : d ∈ lowerChars cs)
    (hpos : 0 < d.toNat) (hlt : d.toNat < 0x80) :
    (∃ c ∈ cs, c.toLower = d) ∨ d = 'i' ∨ d = 'k' := by
  have hfrom : ∀ cs before, d ∈ lowerFrom before cs →
      (∃ c ∈ cs, c.toLower = d) ∨ d = 'i' ∨ d = 'k' := by
    intro cs
    induction cs with
    | nil => exact fun before h ↦ absurd h List.not_mem_nil
    | cons c cs ih =>
      intro before h
      rw [lowerFrom, List.mem_append] at h
      rcases h with h | h
      · split at h
        · -- Neither small form of the sigma is in ASCII.
          rw [List.mem_singleton] at h
          rw [h] at hlt
          split at hlt
          · exact absurd hlt (by decide)
          · exact absurd hlt (by decide)
        · exact (toLower_of_mem_lowerChar h hpos hlt).imp_left fun hc ↦ ⟨c, List.mem_cons_self, hc⟩
      · rcases ih _ h with ⟨c', hc', heq⟩ | h
        · exact .inl ⟨c', List.mem_cons_of_mem c hc', heq⟩
        · exact .inr h
  exact hfrom cs [] h

/-! ## Texts that are in lower case already -/

theorem toLower_of_not_isUpper {c : Char} (h : c.isUpper = false) : c.toLower = c :=
  dif_neg (of_decide_eq_false h)

theorem lowerFrom_of_isSmall {cs : List Char} (h : ∀ c ∈ cs, IsSmall c)
    (before : List Char) : lowerFrom before cs = cs := by
  induction cs generalizing before with
  | nil => rfl
  | cons c cs ih =>
    obtain ⟨⟨hascii, hupper⟩, hcs⟩ := List.forall_mem_cons.1 h
    have hsigma : c ≠ 'Σ' := by
      rintro rfl
      exact absurd hascii (by decide)
    rw [lowerFrom, if_neg hsigma, lowerChar, if_pos hascii, toLower_of_not_isUpper hupper,
      ih hcs, List.singleton_append]

/-- A character of ASCII that is no capital stays where it stands. -/
theorem mem_lowerChars_of_isSmall {cs : List Char} {c : Char} (h : c ∈ cs) (hc : IsSmall c) :
    c ∈ lowerChars cs := by
  have hsigma : c ≠ 'Σ' := by
    rintro rfl
    exact absurd hc.1 (by decide)
  have hfrom : ∀ cs before, c ∈ cs → c ∈ lowerFrom before cs := by
    intro cs
    induction cs with
    | nil => exact fun _ h ↦ h
    | cons d cs ih =>
      intro before h
      rw [lowerFrom, List.mem_append]
      rcases List.mem_cons.1 h with rfl | h
      · rw [if_neg hsigma, lowerChar, if_pos hc.1, toLower_of_not_isUpper hc.2]
        exact .inl (List.mem_singleton_self _)
      · exact .inr (ih _ h)
  exact hfrom cs [] h

/-- A text of ASCII without capitals is its own lower case. -/
theorem lowerChars_of_isSmall {cs : List Char} (h : ∀ c ∈ cs, IsSmall c) :
    lowerChars cs = cs := lowerFrom_of_isSmall h []

end Telemetry.Text
