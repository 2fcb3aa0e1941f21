import Mathlib.Algebra.Group.Nat.Defs
import Mathlib.Data.List.Induction
import Telemetry.Number.Decimal
import Telemetry.Proofs.Text.Prefix

/-!
# Reading decimal digits

The digits of a natural number stand for it, also with zeros before them. What is read as a number
is written with digits, signs, a point, and the letters of the names of the infinite and undefined
values, and with nothing else (`isNumberChar_of_readChars?`).
-/

namespace Telemetry.Decimal

theorem isDigit_of_mem_decimalDigits {n : Nat} {c : Char} (h : c ∈ Text.decimalDigits n) :
    isDigit c = true := Text.isDigit_of_mem_decimalDigits h

theorem toNat_ofNat {d : Nat} (h : d < 10) : (Char.ofNat (48 + d)).toNat - 48 = d := by
  have hall : ∀ d < 10, (Char.ofNat (48 + d)).toNat - 48 = d := by decide
  exact hall d h

theorem value_concat (digits : List Char) (c : Char) :
    value (digits ++ [c]) = value digits * 10 + (c.toNat - 48) := by
  rw [value, List.foldl_append]
  rfl

/-- A natural number is read back from its digits. -/
theorem value_decimalDigits (n : Nat) : value (Text.decimalDigits n) = n := by
  induction n using Nat.strongRecOn with
  | ind n ih =>
    rw [Text.decimalDigits]
    by_cases hn : n < 10
    · rw [if_pos hn]
      change 0 * 10 + ((Char.ofNat (48 + n)).toNat - 48) = n
      rw [toNat_ofNat hn, Nat.zero_mul, Nat.zero_add]
    · rw [if_neg hn, value_concat, ih (n / 10) (by omega), toNat_ofNat (Nat.mod_lt n (by decide))]
      omega

theorem length_decimalDigits_le {n width : Nat} (h : n < 10 ^ (width + 1)) :
    (Text.decimalDigits n).length ≤ width + 1 := by
  induction width generalizing n with
  | zero =>
    rw [Text.decimalDigits, if_pos (by simpa using h)]
    exact Nat.le_refl 1
  | succ width ih =>
    rw [Text.decimalDigits]
    by_cases hn : n < 10
    · rw [if_pos hn]
      exact Nat.le_add_left 1 _
    · rw [if_neg hn, List.length_append]
      refine Nat.add_le_add_right (ih ?_) 1
      rw [Nat.div_lt_iff_lt_mul (by decide), ← Nat.pow_succ]
      exact h

/-- A number is below the power of ten that its digits give it. -/
theorem value_lt {digits : List Char} (h : ∀ c ∈ digits, isDigit c = true) :
    value digits < 10 ^ digits.length := by
  induction digits using List.reverseRecOn with
  | nil => exact Nat.zero_lt_one
  | append_singleton digits c ih =>
    have hdigits := ih fun d hd ↦ h d (List.mem_append_left _ hd)
    have hc : c.toNat - 48 ≤ 9 := by
      have hdigit := h c List.mem_concat_self
      rw [isDigit, Bool.and_eq_true, decide_eq_true_eq, decide_eq_true_eq] at hdigit
      have hle : c.toNat ≤ 57 := hdigit.2
      omega
    rw [value_concat, List.length_append, List.length_singleton, Nat.pow_succ]
    omega

theorem lt_pow_length_decimalDigits (n : Nat) : n < 10 ^ (Text.decimalDigits n).length := by
  have hlt : value (Text.decimalDigits n) < 10 ^ (Text.decimalDigits n).length :=
    value_lt fun c ↦ isDigit_of_mem_decimalDigits
  rwa [value_decimalDigits] at hlt

theorem pow_length_decimalDigits_le {n : Nat} (h : 0 < n) :
    10 ^ ((Text.decimalDigits n).length - 1) ≤ n := by
  have hlength := List.length_pos_iff.2 (Text.decimalDigits_ne_nil n)
  rw [← Nat.not_lt]
  intro hlt
  match hwidth : (Text.decimalDigits n).length with
  | 0 => omega
  | 1 =>
    rw [hwidth] at hlt
    exact absurd hlt (Nat.not_lt.2 h)
  | width + 2 =>
    rw [hwidth] at hlt
    have hle := length_decimalDigits_le hlt
    omega

theorem value_replicate_append (count : Nat) (digits : List Char) :
    value (List.replicate count '0' ++ digits) = value digits := by
  induction count with
  | zero => rfl
  | succ count ih =>
    rw [← ih, List.replicate_succ, List.cons_append, value, List.foldl_cons]
    rfl

theorem value_append_replicate (digits : List Char) (count : Nat) :
    value (digits ++ List.replicate count '0') = value digits * 10 ^ count := by
  induction count with
  | zero => rw [List.replicate_zero, List.append_nil, Nat.pow_zero, Nat.mul_one]
  | succ count ih =>
    rw [List.replicate_succ', ← List.append_assoc, value_concat, ih, Nat.pow_succ, Nat.mul_assoc]
    rfl

/-! ## Counts -/

/-- The text is a count below `2 ^ bits`: digits, with or without a plus sign before them. -/
def IsUnsigned (bits : Nat) (cs : List Char) (n : Nat) : Prop :=
  ∃ digits, (cs = digits ∨ cs = '+' :: digits) ∧ digits ≠ [] ∧ digits.all isDigit = true ∧
    value digits = n ∧ n < 2 ^ bits

theorem ite_digits_eq_some_iff {bits n : Nat} {digits : List Char} :
    (if digits.isEmpty || !digits.all isDigit then none
      else if value digits < Nat.pow 2 bits then some (value digits) else none) = some n ↔
      digits ≠ [] ∧ digits.all isDigit = true ∧ value digits = n ∧ n < 2 ^ bits := by
  by_cases hempty : digits = []
  · subst hempty
    exact ⟨nofun, fun h ↦ absurd rfl h.1⟩
  · cases hall : digits.all isDigit with
    | false => simp
    | true =>
      rw [if_neg (by simp [hempty]), and_iff_right hempty, and_iff_right rfl]
      by_cases hlt : value digits < Nat.pow 2 bits
      · rw [if_pos hlt, Option.some.injEq]
        exact ⟨fun h ↦ ⟨h, h ▸ hlt⟩, fun h ↦ h.1⟩
      · rw [if_neg hlt]
        refine ⟨nofun, fun h ↦ absurd ?_ hlt⟩
        rw [h.1]
        exact h.2

theorem readUnsigned?_eq_some_iff {bits n : Nat} {cs : List Char} :
    readUnsigned? bits cs = some n ↔ IsUnsigned bits cs n := by
  rw [readUnsigned?.eq_def, IsUnsigned]
  split
  · next rest =>
    rw [ite_digits_eq_some_iff]
    constructor
    · exact fun h ↦ ⟨rest, .inr rfl, h⟩
    · rintro ⟨digits, rfl | heq, h⟩
      · -- The sign itself is no digit.
        exact absurd (List.all_eq_true.1 h.2.1 '+' List.mem_cons_self) (by decide)
      · exact (List.cons.inj heq).2 ▸ h
  · next hsign =>
    rw [ite_digits_eq_some_iff]
    constructor
    · exact fun h ↦ ⟨cs, .inl rfl, h⟩
    · rintro ⟨digits, rfl | heq, h⟩
      · exact h
      · exact absurd heq (hsign digits)

/-! ## What numbers are written with -/

/-- A digit, a sign, a point, or a letter of the name of an infinite or undefined value. -/
def isNumberChar (c : Char) : Bool := "+-.0123456789einftya".toList.contains c.toLower

theorem isNumberChar_of_isDigit {c : Char} (h : isDigit c = true) : isNumberChar c = true := by
  have hall : ∀ n < 58, isDigit (Char.ofNat n) = true → isNumberChar (Char.ofNat n) = true := by
    decide
  have hlt : c.toNat < 58 := by
    rw [isDigit, Bool.and_eq_true, decide_eq_true_eq, decide_eq_true_eq] at h
    have hle : c.toNat ≤ 57 := h.2
    omega
  have hchar := hall c.toNat hlt
  rw [Char.ofNat_toNat] at hchar
  exact hchar h

theorem isNumberChar_of_all_isDigit {cs : List Char} (h : cs.all isDigit = true) :
    ∀ c ∈ cs, isNumberChar c = true :=
  fun c hc ↦ isNumberChar_of_isDigit (List.all_eq_true.1 h c hc)

/-- The letters of a name of a special value, in any letter case. -/
theorem isNumberChar_of_map_toLower {cs : List Char} {name : String}
    (h : String.ofList (cs.map Char.toLower) = name)
    (hname : name.toList.all "+-.0123456789einftya".toList.contains = true) :
    ∀ c ∈ cs, isNumberChar c = true := by
  intro c hc
  rw [← h, String.toList_ofList, List.all_eq_true] at hname
  exact hname c.toLower (List.mem_map_of_mem hc)

/-- What stands behind a sign is read only if it is digits. -/
theorem isNumberChar_of_ite_digits {α : Type} {digits : List Char} {read : Option α} {a : α}
    (h : (if digits.isEmpty || !digits.all isDigit then none else read) = some a) :
    ∀ c ∈ digits, isNumberChar c = true := by
  split at h
  · cases h
  · next hdigits =>
    rw [Bool.not_eq_true, Bool.or_eq_false_iff, Bool.not_eq_false'] at hdigits
    exact isNumberChar_of_all_isDigit hdigits.2

theorem isNumberChar_of_readUnsigned? {bits n : Nat} {cs : List Char}
    (h : readUnsigned? bits cs = some n) : ∀ c ∈ cs, isNumberChar c = true := by
  rw [readUnsigned?.eq_def] at h
  split at h
  · exact List.forall_mem_cons.2 ⟨by decide, isNumberChar_of_ite_digits h⟩
  · exact isNumberChar_of_ite_digits h

theorem isNumberChar_of_readExponent? {cs : List Char} {exponent : Int}
    (h : readExponent? cs = some exponent) : ∀ c ∈ cs, isNumberChar c = true := by
  match cs with
  | [] => exact nofun
  | e :: cs =>
    rw [readExponent?.eq_def] at h
    dsimp only at h
    split at h
    · next he =>
      have hfirst : isNumberChar e = true := by
        rw [Bool.or_eq_true, decide_eq_true_eq, decide_eq_true_eq] at he
        rcases he with rfl | rfl
        · decide
        · decide
      refine List.forall_mem_cons.2 ⟨hfirst, ?_⟩
      split at h
      · exact List.forall_mem_cons.2 ⟨by decide, isNumberChar_of_ite_digits h⟩
      · exact List.forall_mem_cons.2 ⟨by decide, isNumberChar_of_ite_digits h⟩
      · exact isNumberChar_of_ite_digits h
    · cases h

theorem isNumberChar_of_readNumeral? {cs : List Char} {numeral : Numeral}
    (h : readNumeral? cs = some numeral) : ∀ c ∈ cs, isNumberChar c = true := by
  have hdigits : ∀ cs : List Char, ∀ c ∈ cs.takeWhile isDigit, isNumberChar c = true :=
    fun cs c hc ↦ isNumberChar_of_isDigit (List.all_eq_true.1 List.all_takeWhile c hc)
  rw [readNumeral?] at h
  rw [← List.takeWhile_append_dropWhile (p := isDigit) (l := cs)]
  refine List.forall_mem_append.2 ⟨hdigits cs, ?_⟩
  split at h
  · next hrest =>
    split at h
    · cases h
    · obtain ⟨exponent, hexponent, -⟩ := Option.map_eq_some_iff.1 h
      have hall := isNumberChar_of_readExponent? hexponent
      split at hrest
      · next more hpoint =>
        obtain ⟨-, rfl⟩ := Prod.mk.inj hrest
        rw [hpoint, ← List.takeWhile_append_dropWhile (p := isDigit) (l := more)]
        exact List.forall_mem_cons.2 ⟨by decide, List.forall_mem_append.2 ⟨hdigits more, hall⟩⟩
      · obtain ⟨-, rfl⟩ := Prod.mk.inj hrest
        exact hall

theorem isNumberChar_of_readMagnitude? {cs : List Char} {negative : Bool} {x : Binary64}
    (h : readMagnitude? negative cs = some x) : ∀ c ∈ cs, isNumberChar c = true := by
  rw [readMagnitude?] at h
  split at h
  · next hname =>
    rw [Bool.or_eq_true, decide_eq_true_eq, decide_eq_true_eq] at hname
    rcases hname with hname | hname
    · exact isNumberChar_of_map_toLower hname (by decide)
    · exact isNumberChar_of_map_toLower hname (by decide)
  · split at h
    · next hname => exact isNumberChar_of_map_toLower hname (by decide)
    · obtain ⟨numeral, hnumeral, -⟩ := Option.map_eq_some_iff.1 h
      exact isNumberChar_of_readNumeral? hnumeral

/-- Whatever is read as a number is written with the characters of numbers. -/
theorem isNumberChar_of_readChars? {cs : List Char} {x : Binary64}
    (h : readChars? cs = some x) : ∀ c ∈ cs, isNumberChar c = true := by
  rw [readChars?.eq_def] at h
  split at h
  · exact List.forall_mem_cons.2 ⟨by decide, isNumberChar_of_readMagnitude? h⟩
  · exact List.forall_mem_cons.2 ⟨by decide, isNumberChar_of_readMagnitude? h⟩
  · exact isNumberChar_of_readMagnitude? h

end Telemetry.Decimal
