import Telemetry.Proofs.Text.Utf8

/-!
# What decodes was written so

The strict reader accepts nothing but what the writer writes: the bytes that it takes for a
character are those of the character, so a byte string that decodes to a text is the text's own.

The bounds on the second byte carry this. They leave out the numbers that fit into fewer bytes and
those that are no character, so the number of the first two bytes lies where the writer uses the
same shape (`shape?_cases`).
-/

namespace Telemetry.Utf8

/-! ## Bytes that continue a character -/

theorem eq_ofNat_of_toNat {b : UInt8} {n : Nat} (h : b.toNat = n) : b = UInt8.ofNat n := by
  rw [← h, UInt8.ofNat_toNat]

/-- A byte between the two bounds carries six bits. -/
theorem eq_tailByte {b : UInt8} (hlow : 128 ≤ b.toNat) (hhigh : b.toNat ≤ 191) :
    b = tailByte (b.toNat - 0x80) := by
  apply eq_ofNat_of_toNat
  omega

theorem continueWith_eq_scalar_succ {bits taken more : Nat} {bs rest : List UInt8} {c : Char}
    (h : continueWith bits taken (more + 1) bs = (.scalar c, rest)) :
    ∃ n < 64, ∃ left, bs = tailByte n :: left ∧
      continueWith (bits * 64 + n) (taken + 1) more left = (.scalar c, rest) := by
  cases bs with
  | nil => simp [continueWith] at h
  | cons b left =>
    rw [continueWith] at h
    by_cases hb : isContinuation b = true
    · rw [if_pos hb] at h
      rw [isContinuation, Bool.and_eq_true, decide_eq_true_eq, decide_eq_true_eq,
        UInt8.le_iff_toNat_le, UInt8.le_iff_toNat_le] at hb
      have hlow : 128 ≤ b.toNat := hb.1
      have hhigh : b.toNat ≤ 191 := hb.2
      refine ⟨b.toNat - 0x80, by omega, left, ?_, h⟩
      rw [← eq_tailByte hlow hhigh]
    · rw [if_neg hb] at h
      simp at h

/-- A first byte above ASCII with a second byte that its shape admits: `n` are the bits of the
second byte and `v` the number of both. -/
theorem shape?_cases {b b₂ : UInt8} {s : Shape} (h : shape? b = some s) (h₁ : s.low ≤ b₂)
    (h₂ : b₂ ≤ s.high) :
    ∃ n < 64, b₂ = tailByte n ∧ b₂.toNat - 0x80 = n ∧ ∃ v, v = s.bits * 64 + n ∧
      (s.more = 1 ∧ b = UInt8.ofNat (v / 64 + 0xC0) ∧ 0x80 ≤ v ∧ v < 0x800 ∨
        s.more = 2 ∧ b = UInt8.ofNat (v / 64 + 0xE0) ∧ 0x20 ≤ v ∧ v < 0x400 ∧
          (v < 0x360 ∨ 0x37F < v) ∨
        s.more = 3 ∧ b = UInt8.ofNat (v / 64 + 0xF0) ∧ 0x10 ≤ v ∧ v < 0x110) := by
  rw [UInt8.le_iff_toNat_le] at h₁ h₂
  rw [shape?] at h
  simp only [Bool.and_eq_true, decide_eq_true_eq, UInt8.le_iff_toNat_le, ← UInt8.toNat_inj] at h
  repeat' split at h
  all_goals cases h
  all_goals simp only [UInt8.reduceToNat] at *
  all_goals
    refine ⟨b₂.toNat - 0x80, by omega, eq_tailByte (by omega) (by omega), rfl, _, rfl, ?_⟩
  · exact .inl ⟨trivial, eq_ofNat_of_toNat (by omega), by omega, by omega⟩
  · exact .inr (.inl ⟨trivial, eq_ofNat_of_toNat (by omega), by omega, by omega, by omega⟩)
  · exact .inr (.inl ⟨trivial, eq_ofNat_of_toNat (by omega), by omega, by omega, by omega⟩)
  · exact .inr (.inl ⟨trivial, eq_ofNat_of_toNat (by omega), by omega, by omega, by omega⟩)
  · exact .inr (.inr ⟨trivial, eq_ofNat_of_toNat (by omega), by omega, by omega⟩)
  · exact .inr (.inr ⟨trivial, eq_ofNat_of_toNat (by omega), by omega, by omega⟩)
  · exact .inr (.inr ⟨trivial, eq_ofNat_of_toNat (by omega), by omega, by omega⟩)

/-! ## One character -/

theorem toNat_ofNat_of_isScalar {n : Nat} (h : n < 0xD800 ∨ 0xDFFF < n ∧ n < 0x110000) :
    (Char.ofNat n).toNat = n := by
  rw [Char.ofNat, dif_pos h]
  rfl

theorem tailByte_add (m n : Nat) : tailByte (m * 64 + n) = tailByte n := by
  rw [tailByte, tailByte, Nat.mul_comm m, Nat.mul_add_mod]

theorem utf8EncodeChar_one {n : Nat} (h : n < 0x80) :
    String.utf8EncodeChar (Char.ofNat n) = [UInt8.ofNat n] := by
  have hvalue := toNat_ofNat_of_isScalar (n := n) (by omega)
  rcases utf8EncodeChar_cases (Char.ofNat n) with ⟨-, h⟩ | ⟨h, -⟩ | ⟨h, -⟩ | ⟨h, -⟩
  · rw [h, hvalue]
  all_goals omega

theorem utf8EncodeChar_two {v : Nat} (hlow : 0x80 ≤ v) (hhigh : v < 0x800) :
    String.utf8EncodeChar (Char.ofNat v) = [UInt8.ofNat (v / 64 + 0xC0), tailByte v] := by
  have hvalue := toNat_ofNat_of_isScalar (n := v) (by omega)
  rcases utf8EncodeChar_cases (Char.ofNat v) with ⟨h, -⟩ | ⟨-, -, h⟩ | ⟨h, -⟩ | ⟨h, -⟩
  · omega
  · rw [h, hvalue]
  all_goals omega

theorem utf8EncodeChar_three {v n : Nat} (hlow : 0x20 ≤ v) (hhigh : v < 0x400)
    (hscalar : v < 0x360 ∨ 0x37F < v) (hn : n < 64) :
    String.utf8EncodeChar (Char.ofNat (v * 64 + n)) =
      [UInt8.ofNat (v / 64 + 0xE0), tailByte v, tailByte n] := by
  have hvalue := toNat_ofNat_of_isScalar (n := v * 64 + n) (by omega)
  rcases utf8EncodeChar_cases (Char.ofNat (v * 64 + n)) with
    ⟨h, -⟩ | ⟨-, h, -⟩ | ⟨-, -, h⟩ | ⟨h, -⟩
  · omega
  · omega
  · have hfirst : (v * 64 + n) / 4096 = v / 64 := by omega
    have hsecond : (v * 64 + n) / 64 = v := by omega
    rw [h, hvalue, hfirst, hsecond, tailByte_add]
  · omega

theorem utf8EncodeChar_four {v n m : Nat} (hlow : 0x10 ≤ v) (hhigh : v < 0x110) (hn : n < 64)
    (hm : m < 64) :
    String.utf8EncodeChar (Char.ofNat ((v * 64 + n) * 64 + m)) =
      [UInt8.ofNat (v / 64 + 0xF0), tailByte v, tailByte n, tailByte m] := by
  have hvalue := toNat_ofNat_of_isScalar (n := (v * 64 + n) * 64 + m) (by omega)
  rcases utf8EncodeChar_cases (Char.ofNat ((v * 64 + n) * 64 + m)) with
    ⟨h, -⟩ | ⟨-, h, -⟩ | ⟨-, h, -⟩ | ⟨-, h⟩
  · omega
  · omega
  · omega
  · have hfirst : ((v * 64 + n) * 64 + m) / 262144 = v / 64 := by omega
    have hsecond : ((v * 64 + n) * 64 + m) / 4096 = v := by omega
    have hthird : ((v * 64 + n) * 64 + m) / 64 = v * 64 + n := by omega
    rw [h, hvalue, hfirst, hsecond, hthird, tailByte_add, tailByte_add]

/-- What the reader takes for a character above ASCII is what is written for it. -/
theorem cons_cons_eq_of_continueWith {b b₂ : UInt8} {s : Shape} {bs rest : List UInt8} {c : Char}
    (hshape : shape? b = some s) (h₁ : s.low ≤ b₂) (h₂ : b₂ ≤ s.high)
    (h : continueWith (s.bits * 64 + (b₂.toNat - 0x80)) 2 (s.more - 1) bs = (.scalar c, rest)) :
    b :: b₂ :: bs = String.utf8EncodeChar c ++ rest := by
  obtain ⟨n, hn, rfl, hvalue, v, hv, hcases⟩ := shape?_cases hshape h₁ h₂
  have htail : tailByte v = tailByte n := by rw [hv, tailByte_add]
  rw [hvalue, ← hv] at h
  rcases hcases with ⟨hmore, rfl, hlow, hhigh⟩ | ⟨hmore, rfl, hlow, hhigh, hscalar⟩ |
    ⟨hmore, rfl, hlow, hhigh⟩ <;> rw [hmore] at h
  · rw [continueWith] at h
    cases h
    rw [utf8EncodeChar_two hlow hhigh, htail]
    rfl
  · obtain ⟨n₃, hn₃, left, rfl, hleft⟩ := continueWith_eq_scalar_succ h
    rw [continueWith] at hleft
    cases hleft
    rw [utf8EncodeChar_three hlow hhigh hscalar hn₃, htail]
    rfl
  · obtain ⟨n₃, hn₃, left, rfl, hleft⟩ := continueWith_eq_scalar_succ h
    obtain ⟨n₄, hn₄, left, rfl, hlast⟩ := continueWith_eq_scalar_succ hleft
    rw [continueWith] at hlast
    cases hlast
    rw [utf8EncodeChar_four hlow hhigh hn₃ hn₄, htail]
    rfl

/-- What the reader takes for a character is what is written for it. -/
theorem cons_eq_of_next {b : UInt8} {bs rest : List UInt8} {c : Char}
    (h : next b bs = (.scalar c, rest)) : b :: bs = String.utf8EncodeChar c ++ rest := by
  rw [next] at h
  by_cases hascii : b < 0x80
  · rw [if_pos hascii] at h
    cases h
    rw [utf8EncodeChar_one (UInt8.lt_iff_toNat_lt.1 hascii), UInt8.ofNat_toNat,
      List.singleton_append]
  · rw [if_neg hascii] at h
    cases hshape : shape? b with
    | none => simp [hshape] at h
    | some s =>
      cases bs with
      | nil => simp [hshape] at h
      | cons b₂ bs =>
        simp only [hshape] at h
        by_cases hsecond : (s.low ≤ b₂ && b₂ ≤ s.high) = true
        · rw [if_pos hsecond] at h
          rw [Bool.and_eq_true, decide_eq_true_eq, decide_eq_true_eq] at hsecond
          exact cons_cons_eq_of_continueWith hshape hsecond.1 hsecond.2 h
        · rw [if_neg hsecond] at h
          simp at h

/-! ## A whole text -/

theorem eq_map_of_collect {offset : Nat} {found : List Item} {cs : List Char}
    (h : collect offset found = .ok cs) : found = cs.map .scalar := by
  induction found generalizing offset cs with
  | nil =>
    cases h
    rfl
  | cons item found ih =>
    cases item with
    | scalar c =>
      rw [collect] at h
      cases hrest : collect (offset + c.utf8Size) found with
      | error e => simp [hrest, Except.map] at h
      | ok ds =>
        rw [hrest] at h
        cases h
        rw [List.map_cons, ← ih hrest]
    | invalid n => simp [collect] at h
    | truncated n => simp [collect] at h

theorem eq_encodeChars_of_items {bs : List UInt8} {cs : List Char}
    (h : items bs = cs.map .scalar) : bs = encodeChars cs := by
  induction cs generalizing bs with
  | nil =>
    cases bs with
    | nil => rfl
    | cons b bs => simp [items] at h
  | cons c cs ih =>
    cases bs with
    | nil => simp [items] at h
    | cons b bs =>
      rw [items, List.map_cons, List.cons.injEq] at h
      have hnext : next b bs = (.scalar c, (next b bs).2) := by rw [← h.1]
      rw [cons_eq_of_next hnext, ih h.2]
      rfl

/-- A byte string decodes to a text exactly when it is what is written for the text. -/
theorem decode_eq_ok_iff {bs : List UInt8} {s : String} : decode bs = .ok s ↔ bs = encode s := by
  constructor
  · intro h
    rw [decode] at h
    cases hcollect : collect 0 (items bs) with
    | error e => simp [hcollect, Except.map] at h
    | ok cs =>
      rw [hcollect] at h
      cases h
      rw [encode, String.toList_ofList]
      exact eq_encodeChars_of_items (eq_map_of_collect hcollect)
  · rintro rfl
    rw [encode, decode_encodeChars, String.ofList_toList]

end Telemetry.Utf8
