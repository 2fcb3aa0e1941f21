import Telemetry.Text.Utf8

/-!
# Reading back what was written in UTF-8

The reader takes one character from the bytes of a character, whatever follows them, so a text
that was written decodes to itself. Characters take one, two, three or four bytes; in each case the
first byte announces its shape, and every later byte carries six bits.

What was not written so is shown with replacement characters, and what stands before a byte below
128 is shown as if nothing followed (`decodeLossyChars_append`).
-/

namespace Telemetry.Utf8

/-! ## One byte -/

/-- The byte that carries the last six bits of a number. -/
def tailByte (n : Nat) : UInt8 := UInt8.ofNat (n % 64 + 128)

theorem toNat_tailByte (n : Nat) : (tailByte n).toNat = n % 64 + 128 := by
  have h : n % 64 + 128 < 256 := by omega
  rw [tailByte, UInt8.toNat_ofNat', Nat.mod_eq_of_lt h]

theorem isContinuation_tailByte (n : Nat) : isContinuation (tailByte n) = true := by
  have h := toNat_tailByte n
  rw [isContinuation, Bool.and_eq_true, decide_eq_true_eq, decide_eq_true_eq,
    UInt8.le_iff_toNat_le, UInt8.le_iff_toNat_le, h]
  constructor
  · exact Nat.le_add_left 128 (n % 64)
  · change n % 64 + 128 ≤ 191
    omega

theorem continueWith_tailByte (bits taken more n : Nat) (bs : List UInt8) :
    continueWith bits taken (more + 1) (tailByte n :: bs) =
      continueWith (bits * 64 + n % 64) (taken + 1) more bs := by
  rw [continueWith, if_pos (isContinuation_tailByte n), toNat_tailByte, Nat.add_sub_cancel]

/-! ## The shape that a first byte announces -/

theorem shape?_two {h : Nat} (hlow : 2 ≤ h) (hhigh : h < 32) :
    shape? (UInt8.ofNat (h + 0xC0)) = some ⟨1, 0x80, 0xBF, h⟩ := by
  have hall : ∀ h < 32, 2 ≤ h → shape? (UInt8.ofNat (h + 0xC0)) = some ⟨1, 0x80, 0xBF, h⟩ := by
    decide
  exact hall h hhigh hlow

theorem shape?_three {h : Nat} (hhigh : h < 16) :
    shape? (UInt8.ofNat (h + 0xE0)) =
      some ⟨2, if h = 0 then 0xA0 else 0x80, if h = 13 then 0x9F else 0xBF, h⟩ := by
  have hall : ∀ h < 16, shape? (UInt8.ofNat (h + 0xE0)) =
      some ⟨2, if h = 0 then 0xA0 else 0x80, if h = 13 then 0x9F else 0xBF, h⟩ := by decide
  exact hall h hhigh

theorem shape?_four {h : Nat} (hhigh : h < 5) :
    shape? (UInt8.ofNat (h + 0xF0)) =
      some ⟨3, if h = 0 then 0x90 else 0x80, if h = 4 then 0x8F else 0xBF, h⟩ := by
  have hall : ∀ h < 5, shape? (UInt8.ofNat (h + 0xF0)) =
      some ⟨3, if h = 0 then 0x90 else 0x80, if h = 4 then 0x8F else 0xBF, h⟩ := by decide
  exact hall h hhigh

/-! ## One character -/

theorem next_ascii {n : Nat} (h : n < 0x80) (bs : List UInt8) :
    next (UInt8.ofNat n) bs = (.scalar (Char.ofNat n), bs) := by
  have htoNat : (UInt8.ofNat n).toNat = n := by
    rw [UInt8.toNat_ofNat', Nat.mod_eq_of_lt (by omega)]
  have hlt : UInt8.ofNat n < 0x80 := by
    rw [UInt8.lt_iff_toNat_lt, htoNat]
    exact h
  rw [next, if_pos hlt, htoNat]

/-- A first byte above ASCII whose shape admits the byte behind it. -/
theorem next_tailByte {first n : Nat} {s : Shape} (hlow : 0x80 ≤ first) (hhigh : first < 0x100)
    (hshape : shape? (UInt8.ofNat first) = some s) (h₁ : s.low.toNat ≤ n % 64 + 128)
    (h₂ : n % 64 + 128 ≤ s.high.toNat) (bs : List UInt8) :
    next (UInt8.ofNat first) (tailByte n :: bs) =
      continueWith (s.bits * 64 + n % 64) 2 (s.more - 1) bs := by
  have hge : ¬ UInt8.ofNat first < 0x80 := by
    rw [UInt8.lt_iff_toNat_lt, UInt8.toNat_ofNat', Nat.mod_eq_of_lt hhigh]
    exact Nat.not_lt.2 hlow
  have hsecond : (s.low ≤ tailByte n && tailByte n ≤ s.high) = true := by
    rw [Bool.and_eq_true, decide_eq_true_eq, decide_eq_true_eq, UInt8.le_iff_toNat_le,
      UInt8.le_iff_toNat_le, toNat_tailByte]
    exact ⟨h₁, h₂⟩
  rw [next, if_neg hge, hshape]
  change (if (s.low ≤ tailByte n && tailByte n ≤ s.high) = true then _ else _) = _
  rw [if_pos hsecond, toNat_tailByte, Nat.add_sub_cancel]

theorem toNat_isScalar (c : Char) :
    c.toNat < 0xD800 ∨ 0xDFFF < c.toNat ∧ c.toNat < 0x110000 := c.valid

/-- The bytes of a character, as the reader takes them apart. -/
theorem utf8EncodeChar_cases (c : Char) :
    (c.toNat < 0x80 ∧ String.utf8EncodeChar c = [UInt8.ofNat c.toNat]) ∨
    (0x80 ≤ c.toNat ∧ c.toNat < 0x800 ∧ String.utf8EncodeChar c =
      [UInt8.ofNat (c.toNat / 64 + 0xC0), tailByte c.toNat]) ∨
    (0x800 ≤ c.toNat ∧ c.toNat < 0x10000 ∧ String.utf8EncodeChar c =
      [UInt8.ofNat (c.toNat / 4096 + 0xE0), tailByte (c.toNat / 64), tailByte c.toNat]) ∨
    (0x10000 ≤ c.toNat ∧ String.utf8EncodeChar c =
      [UInt8.ofNat (c.toNat / 262144 + 0xF0), tailByte (c.toNat / 4096), tailByte (c.toNat / 64),
        tailByte c.toNat]) := by
  have hscalar := toNat_isScalar c
  rw [String.utf8EncodeChar]
  simp only [Char.toNat_val]
  by_cases h₁ : c.toNat ≤ 0x7F
  · rw [if_pos h₁]
    exact .inl ⟨by omega, rfl⟩
  · rw [if_neg h₁]
    by_cases h₂ : c.toNat ≤ 0x7FF
    · rw [if_pos h₂, Nat.mod_eq_of_lt (by omega : c.toNat / 64 < 32)]
      exact .inr (.inl ⟨by omega, by omega, rfl⟩)
    · rw [if_neg h₂]
      by_cases h₃ : c.toNat ≤ 0xFFFF
      · rw [if_pos h₃, Nat.mod_eq_of_lt (by omega : c.toNat / 4096 < 16)]
        exact .inr (.inr (.inl ⟨by omega, by omega, rfl⟩))
      · rw [if_neg h₃, Nat.mod_eq_of_lt (by omega : c.toNat / 262144 < 8)]
        exact .inr (.inr (.inr ⟨by omega, rfl⟩))

theorem next_encodeChar (c : Char) (bs : List UInt8) :
    ∃ b more, String.utf8EncodeChar c = b :: more ∧ next b (more ++ bs) = (.scalar c, bs) := by
  have hscalar := toNat_isScalar c
  rcases utf8EncodeChar_cases c with ⟨hlt, h⟩ | ⟨hge, hlt, h⟩ | ⟨hge, hlt, h⟩ | ⟨hge, h⟩
  · refine ⟨_, _, h, ?_⟩
    rw [List.nil_append, next_ascii hlt, Char.ofNat_toNat]
  · refine ⟨_, _, h, ?_⟩
    have hshape := shape?_two (h := c.toNat / 64) (by omega) (by omega)
    have hvalue : c.toNat / 64 * 64 + c.toNat % 64 = c.toNat := by omega
    rw [List.cons_append, next_tailByte (by omega) (by omega) hshape (Nat.le_add_left ..)
      (by change c.toNat % 64 + 128 ≤ 191; omega)]
    change (Item.scalar (Char.ofNat (c.toNat / 64 * 64 + c.toNat % 64)), bs) = _
    rw [hvalue, Char.ofNat_toNat]
  · -- The bounds of the second byte keep out what is too long and what is half of a pair.
    refine ⟨_, _, h, ?_⟩
    have hshape := shape?_three (h := c.toNat / 4096) (by omega)
    have hvalue : (c.toNat / 4096 * 64 + c.toNat / 64 % 64) * 64 + c.toNat % 64 = c.toNat := by
      omega
    rw [List.cons_append, List.cons_append, next_tailByte (by omega) (by omega) hshape
      (by dsimp only; split <;> (simp only [UInt8.reduceToNat]; omega))
      (by dsimp only; split <;> (simp only [UInt8.reduceToNat]; omega))]
    change continueWith _ 2 (0 + 1) _ = _
    rw [continueWith_tailByte, hvalue, continueWith, Char.ofNat_toNat, List.nil_append]
  · refine ⟨_, _, h, ?_⟩
    have hshape := shape?_four (h := c.toNat / 262144) (by omega)
    have hvalue : ((c.toNat / 262144 * 64 + c.toNat / 4096 % 64) * 64 + c.toNat / 64 % 64) * 64 +
        c.toNat % 64 = c.toNat := by omega
    rw [List.cons_append, List.cons_append, List.cons_append, next_tailByte (by omega) (by omega)
      hshape (by dsimp only; split <;> (simp only [UInt8.reduceToNat]; omega))
      (by dsimp only; split <;> (simp only [UInt8.reduceToNat]; omega))]
    change continueWith _ 2 (1 + 1) _ = _
    rw [continueWith_tailByte, continueWith_tailByte, hvalue, continueWith, Char.ofNat_toNat,
      List.nil_append]

/-! ## A whole text -/

theorem items_encodeChar (c : Char) (bs : List UInt8) :
    items (String.utf8EncodeChar c ++ bs) = .scalar c :: items bs := by
  obtain ⟨b, more, hencode, hnext⟩ := next_encodeChar c bs
  rw [hencode, List.cons_append, items, hnext]

theorem items_encodeChars (cs : List Char) : items (encodeChars cs) = cs.map .scalar := by
  induction cs with
  | nil => rw [encodeChars, List.flatMap_nil, items, List.map_nil]
  | cons c cs ih =>
    rw [encodeChars, List.flatMap_cons, items_encodeChar, List.map_cons]
    exact congrArg _ ih

theorem decodeLossyChars_encodeChars (cs : List Char) :
    decodeLossyChars (encodeChars cs) = cs := by
  rw [decodeLossyChars, items_encodeChars, List.map_map]
  exact List.map_id cs

theorem collect_scalars (offset : Nat) (cs : List Char) :
    collect offset (cs.map .scalar) = .ok cs := by
  induction cs generalizing offset with
  | nil => rfl
  | cons c cs ih =>
    rw [List.map_cons, collect, ih]
    rfl

/-- A text is read back from its bytes. -/
theorem decode_encodeChars (cs : List Char) : decode (encodeChars cs) = .ok (String.ofList cs) := by
  rw [decode, items_encodeChars, collect_scalars]
  rfl

theorem encodeChars_append (cs ds : List Char) :
    encodeChars (cs ++ ds) = encodeChars cs ++ encodeChars ds := List.flatMap_append

/-- A byte below 128 is a character of its own, never a part of another one. -/
theorem exists_mem_of_mem_encodeChars {cs : List Char} {b : UInt8} (h : b ∈ encodeChars cs)
    (hb : b.toNat < 0x80) : ∃ c ∈ cs, c.toNat = b.toNat := by
  obtain ⟨c, hc, hmem⟩ := List.mem_flatMap.1 h
  have hscalar := toNat_isScalar c
  -- All bytes of a longer encoding are 128 or more.
  have hfirst {n : Nat} (hlow : 0x80 ≤ n) (hhigh : n < 0x100) : b ≠ UInt8.ofNat n := by
    rintro rfl
    rw [UInt8.toNat_ofNat', Nat.mod_eq_of_lt hhigh] at hb
    exact absurd hb (Nat.not_lt.2 hlow)
  have htail (n : Nat) : b ≠ tailByte n := hfirst (by omega) (by omega)
  refine ⟨c, hc, ?_⟩
  rcases utf8EncodeChar_cases c with ⟨hlt, h⟩ | ⟨-, hlt, h⟩ | ⟨-, hlt, h⟩ | ⟨-, h⟩ <;>
    simp only [h, List.mem_cons, List.not_mem_nil, or_false] at hmem
  · rw [hmem, UInt8.toNat_ofNat', Nat.mod_eq_of_lt (by omega)]
  · rcases hmem with h | h
    · exact absurd h (hfirst (by omega) (by omega))
    · exact absurd h (htail _)
  · rcases hmem with h | h | h
    · exact absurd h (hfirst (by omega) (by omega))
    · exact absurd h (htail _)
    · exact absurd h (htail _)
  · rcases hmem with h | h | h | h
    · exact absurd h (hfirst (by omega) (by omega))
    · exact absurd h (htail _)
    · exact absurd h (htail _)
    · exact absurd h (htail _)

/-! ## Before a byte below 128

A byte below 128 continues no character, so what stands before it reads as it would at the end of
the input. Only a character that the end cuts off changes its kind, and it is shown alike. -/

/-- What stands for an item in a text. -/
def Item.shown : Item → Char
  | .scalar c => c
  | _ => Char.ofNat 0xFFFD

theorem decodeLossyChars_cons (b : UInt8) (bs : List UInt8) :
    decodeLossyChars (b :: bs) = (next b bs).1.shown :: decodeLossyChars (next b bs).2 := by
  rw [decodeLossyChars, items, List.map_cons]
  rfl

/-- An item that is shown alike when more bytes follow, and the bytes that it leaves. -/
def IsShownBefore (more : List UInt8) (alone followed : Item × List UInt8) : Prop :=
  followed.1.shown = alone.1.shown ∧ followed.2 = alone.2 ++ more

theorem isShownBefore_continueWith {b : UInt8} (hb : b < 0x80) (more : List UInt8)
    (bits taken left : Nat) (bs : List UInt8) :
    IsShownBefore (b :: more) (continueWith bits taken left bs)
      (continueWith bits taken left (bs ++ b :: more)) := by
  have hstop : ¬ isContinuation b = true := by
    rw [isContinuation, Bool.and_eq_true, decide_eq_true_eq]
    exact fun h ↦ absurd (UInt8.lt_of_lt_of_le hb h.1) (UInt8.lt_irrefl b)
  induction left generalizing bits taken bs with
  | zero => exact ⟨rfl, rfl⟩
  | succ left ih =>
    cases bs with
    | nil =>
      rw [List.nil_append, continueWith, continueWith, if_neg hstop]
      exact ⟨rfl, rfl⟩
    | cons first bs =>
      rw [List.cons_append, continueWith, continueWith]
      by_cases hfirst : isContinuation first = true
      · rw [if_pos hfirst, if_pos hfirst]
        exact ih _ _ bs
      · rw [if_neg hfirst, if_neg hfirst]
        exact ⟨rfl, rfl⟩

/-- Every character above ASCII wants a second byte of 128 or more. -/
theorem le_low_of_shape? {b : UInt8} {s : Shape} (h : shape? b = some s) : 0x80 ≤ s.low := by
  rw [shape?] at h
  repeat' split at h
  all_goals cases h
  all_goals (dsimp only; decide)

theorem isShownBefore_next {b : UInt8} (hb : b < 0x80) (more : List UInt8) (first : UInt8)
    (bs : List UInt8) :
    IsShownBefore (b :: more) (next first bs) (next first (bs ++ b :: more)) := by
  rw [next, next]
  by_cases hfirst : first < 0x80
  · rw [if_pos hfirst, if_pos hfirst]
    exact ⟨rfl, rfl⟩
  · rw [if_neg hfirst, if_neg hfirst]
    cases hshape : shape? first with
    | none => exact ⟨rfl, rfl⟩
    | some s =>
      cases bs with
      | nil =>
        have hbound : ¬ (s.low ≤ b && b ≤ s.high) = true := by
          rw [Bool.and_eq_true, decide_eq_true_eq]
          exact fun h ↦ UInt8.not_le.2 hb (UInt8.le_trans (le_low_of_shape? hshape) h.1)
        change IsShownBefore _ (Item.truncated 1, []) (if _ then _ else (Item.invalid 1, b :: more))
        rw [if_neg hbound]
        exact ⟨rfl, rfl⟩
      | cons second bs =>
        dsimp only [List.cons_append]
        split
        · exact isShownBefore_continueWith hb more _ _ _ bs
        · exact ⟨rfl, rfl⟩

/-- Bytes before a byte below 128 decode on their own. -/
theorem decodeLossyChars_append {b : UInt8} (hb : b < 0x80) (before more : List UInt8) :
    decodeLossyChars (before ++ b :: more) =
      decodeLossyChars before ++ decodeLossyChars (b :: more) := by
  induction hlength : before.length using Nat.strongRecOn generalizing before with
  | ind n ih =>
    cases before with
    | nil =>
      have hnil : decodeLossyChars [] = [] := by rw [decodeLossyChars, items, List.map_nil]
      rw [List.nil_append, hnil, List.nil_append]
    | cons first before =>
      obtain ⟨hshown, hleft⟩ := isShownBefore_next hb more first before
      have hlt := next_length_lt first before
      rw [List.cons_append, decodeLossyChars_cons, hshown, hleft, ih _ (hlength ▸ hlt) _ rfl,
        decodeLossyChars_cons first, List.cons_append]

end Telemetry.Utf8
