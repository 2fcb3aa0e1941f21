import Telemetry.Format.Json

/-!
# Reading back a quoted text

The reader undoes every escape that the writer uses, one character of the text at a time, and stops
at the closing quote. No character that ends a line, and no other control character, stands between
the quotes: that is what lets a record be one line of a file.
-/

namespace Telemetry.Json

/-! ## Digits in base sixteen -/

theorem hexValue?_hexDigit {n : Nat} (h : n < 16) : hexValue? (Text.hexDigit n) = some n := by
  have hall : ∀ n < 16, hexValue? (Text.hexDigit n) = some n := by decide
  exact hall n h

theorem readHex4?_of_lt {n : Nat} (h : n < 0x100) (rest : List Char) :
    readHex4? ('0' :: '0' :: Text.hexDigit (n / 16) :: Text.hexDigit (n % 16) :: rest) =
      some (n, rest) := by
  have hhigh : hexValue? (Text.hexDigit (n / 16)) = some (n / 16) :=
    hexValue?_hexDigit (by omega)
  have hlow : hexValue? (Text.hexDigit (n % 16)) = some (n % 16) :=
    hexValue?_hexDigit (by omega)
  have hzero : hexValue? '0' = some 0 := rfl
  have hvalue : ((0 * 16 + 0) * 16 + n / 16) * 16 + n % 16 = n := by omega
  rw [readHex4?, hzero, hhigh, hlow]
  change some (((0 * 16 + 0) * 16 + n / 16) * 16 + n % 16, rest) = _
  rw [hvalue]

theorem readCodePoint?_of_lt (strict : Bool) {n : Nat} (h : n < 0x100) (rest : List Char) :
    readCodePoint? strict
      ('0' :: '0' :: Text.hexDigit (n / 16) :: Text.hexDigit (n % 16) :: rest) =
        some (Char.ofNat n, rest) := by
  have hlow : ¬ (decide (0xDC00 ≤ n) && decide (n ≤ 0xDFFF)) = true := by
    rw [Bool.and_eq_true, decide_eq_true_eq, decide_eq_true_eq]
    omega
  have hhigh : ¬ (decide (0xD800 ≤ n) && decide (n ≤ 0xDBFF)) = true := by
    rw [Bool.and_eq_true, decide_eq_true_eq, decide_eq_true_eq]
    omega
  rw [readCodePoint?, readHex4?_of_lt h]
  simp only [Option.bind_eq_bind, Option.bind_some, if_neg hlow, if_neg hhigh]

/-! ## One character -/

/-- What the writer puts in the place of a character. -/
theorem escapeChar_cases (c : Char) :
    (∃ e, e ≠ 'u' ∧ ¬ e.toNat < 0x20 ∧ escaped? e = some c ∧ escapeChar c = ['\\', e]) ∨
    (c.toNat < 0x20 ∧ escapeChar c =
      ['\\', 'u', '0', '0', Text.hexDigit (c.toNat / 16), Text.hexDigit (c.toNat % 16)]) ∨
    (c ≠ '"' ∧ c ≠ '\\' ∧ ¬ c.toNat < 0x20 ∧ escapeChar c = [c]) := by
  by_cases hquote : c = '"'
  · exact .inl ⟨'"', by decide, by decide, by rw [hquote]; rfl, by rw [hquote]; rfl⟩
  by_cases hslash : c = '\\'
  · exact .inl ⟨'\\', by decide, by decide, by rw [hslash]; rfl, by rw [hslash]; rfl⟩
  by_cases hfeed : c = '\n'
  · exact .inl ⟨'n', by decide, by decide, by rw [hfeed]; rfl, by rw [hfeed]; rfl⟩
  by_cases hreturn : c = '\r'
  · exact .inl ⟨'r', by decide, by decide, by rw [hreturn]; rfl, by rw [hreturn]; rfl⟩
  by_cases htab : c = '\t'
  · exact .inl ⟨'t', by decide, by decide, by rw [htab]; rfl, by rw [htab]; rfl⟩
  by_cases hback : c = Char.ofNat 8
  · exact .inl ⟨'b', by decide, by decide, by rw [hback]; rfl, by rw [hback]; rfl⟩
  by_cases hpage : c = Char.ofNat 12
  · exact .inl ⟨'f', by decide, by decide, by rw [hpage]; rfl, by rw [hpage]; rfl⟩
  have hescape : escapeChar c = if c.toNat < 0x20 then
      ['\\', 'u', '0', '0', Text.hexDigit (c.toNat / 16), Text.hexDigit (c.toNat % 16)]
      else [c] := by
    rw [escapeChar, if_neg hquote, if_neg hslash, if_neg hfeed, if_neg hreturn, if_neg htab,
      if_neg hback, if_neg hpage]
  by_cases hcontrol : c.toNat < 0x20
  · exact .inr (.inl ⟨hcontrol, by rw [hescape, if_pos hcontrol]⟩)
  · exact .inr (.inr ⟨hquote, hslash, hcontrol, by rw [hescape, if_neg hcontrol]⟩)

theorem readQuoted?_escapeChar (strict : Bool) (fuel : Nat) (acc : List Char) (c : Char)
    (rest : List Char) :
    readQuoted? strict (fuel + 1) acc (escapeChar c ++ rest) =
      readQuoted? strict fuel (c :: acc) rest := by
  have hslash : '\\' ≠ '"' := by decide
  rcases escapeChar_cases c with ⟨e, he, -, hescaped, h⟩ | ⟨hlt, h⟩ | ⟨hquote, hne, hge, h⟩
  · -- A backslash and a letter. The letter is not the one that begins a code point.
    rw [h, List.cons_append, List.singleton_append, readQuoted?.eq_def]
    dsimp only
    rw [if_neg hslash, if_pos rfl]
    split
    · rename_i heq
      exact absurd (List.head_eq_of_cons_eq heq) he
    · rename_i heq
      obtain ⟨rfl, rfl⟩ := List.cons.inj heq
      rw [hescaped]
    · rename_i heq
      exact absurd heq (List.cons_ne_nil _ _)
  · -- A code point in base sixteen. It is below the surrogates, so it stands alone.
    rw [h]
    simp only [List.cons_append, List.nil_append]
    rw [readQuoted?.eq_def]
    dsimp only
    rw [if_neg hslash, if_pos rfl]
    split
    · rename_i heq
      rw [← List.tail_eq_of_cons_eq heq,
        readCodePoint?_of_lt strict (Nat.lt_trans hlt (by decide)), Char.ofNat_toNat]
    · rename_i hu heq
      exact absurd (List.head_eq_of_cons_eq heq).symm hu
    · rename_i heq
      exact absurd heq (List.cons_ne_nil _ _)
  · rw [h, List.singleton_append, readQuoted?.eq_def]
    dsimp only
    rw [if_neg hquote, if_neg hne, if_neg hge]

/-! ## A whole text -/

theorem readQuoted?_flatMap (strict : Bool) (cs rest : List Char) (acc : List Char) {fuel : Nat}
    (h : cs.length < fuel) :
    readQuoted? strict fuel acc (cs.flatMap escapeChar ++ '"' :: rest) =
      some (acc.reverse ++ cs, rest) := by
  induction cs generalizing acc fuel with
  | nil =>
    obtain ⟨fuel, rfl⟩ := Nat.exists_eq_add_one_of_ne_zero (Nat.ne_of_gt h)
    rw [List.flatMap_nil, List.nil_append, readQuoted?.eq_def]
    dsimp only
    rw [if_pos rfl, List.append_nil]
  | cons c cs ih =>
    obtain ⟨fuel, rfl⟩ := Nat.exists_eq_add_one_of_ne_zero (Nat.ne_of_gt (Nat.zero_lt_of_lt h))
    rw [List.flatMap_cons, List.append_assoc, readQuoted?_escapeChar,
      ih (c :: acc) (Nat.lt_of_succ_lt_succ h), List.reverse_cons, List.append_assoc,
      List.singleton_append]

theorem length_le_flatMap_escapeChar (cs : List Char) :
    cs.length ≤ (cs.flatMap escapeChar).length := by
  induction cs with
  | nil => exact Nat.le_refl 0
  | cons c cs ih =>
    have hpos : 1 ≤ (escapeChar c).length := by
      rcases escapeChar_cases c with ⟨e, -, -, -, h⟩ | ⟨-, h⟩ | ⟨-, -, -, h⟩ <;> rw [h] <;> simp
    rw [List.flatMap_cons, List.length_append, List.length_cons]
    omega

/-- A quoted text is read back, and what stands behind it is left over. -/
theorem readText?_quoted (strict : Bool) (cs rest : List Char) :
    readText? strict (quoted cs ++ rest) = some (cs, rest) := by
  have hlength := length_le_flatMap_escapeChar cs
  rw [quoted, List.cons_append, List.cons_append, List.append_assoc, List.singleton_append,
    readText?, readQuoted?_flatMap, List.reverse_nil, List.nil_append]
  rw [List.length_append]
  omega

/-! ## What a quoted text is made of -/

theorem not_control_of_mem_escapeChar {c d : Char} (h : d ∈ escapeChar c) : ¬ d.toNat < 0x20 := by
  have hdigit : ∀ n < 16, ¬ (Text.hexDigit n).toNat < 0x20 := by decide
  rcases escapeChar_cases c with ⟨e, -, hge, -, hc⟩ | ⟨hlt, hc⟩ | ⟨-, -, hge, hc⟩
  · rw [hc, List.mem_cons, List.mem_singleton] at h
    rcases h with rfl | rfl
    · decide
    · exact hge
  · rw [hc] at h
    simp only [List.mem_cons, List.not_mem_nil, or_false] at h
    rcases h with rfl | rfl | rfl | rfl | rfl | rfl
    · decide
    · decide
    · decide
    · decide
    · exact hdigit _ (by omega)
    · exact hdigit _ (by omega)
  · rw [hc, List.mem_singleton] at h
    rw [h]
    exact hge

theorem not_control_of_mem_quoted {cs : List Char} {d : Char} (h : d ∈ quoted cs) :
    ¬ d.toNat < 0x20 := by
  rw [quoted, List.cons_append, List.mem_cons, List.mem_append, List.mem_flatMap,
    List.mem_singleton] at h
  rcases h with rfl | ⟨c, -, hd⟩ | rfl
  · decide
  · exact not_control_of_mem_escapeChar hd
  · decide

end Telemetry.Json
