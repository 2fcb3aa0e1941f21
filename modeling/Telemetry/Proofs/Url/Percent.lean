import Telemetry.Proofs.Text.Case
import Telemetry.Url.Percent

/-!
# Percent encoding and decoding

What is encoded holds nothing that its set would encode once more, so encoding twice is encoding
once (`encode_encode`). It still stands for the same bytes as the text that was encoded
(`decode_encode`): the percent sign is in none of the sets, so an escape that the text holds by
itself passes through and is decoded with the rest. The bytes of a text are therefore read back
exactly when it holds no escape (`decode_encode_eq_iff`).

Reading falls into two steps, an escape or one character that begins none; `decode_induction`
follows them.
-/

namespace Telemetry.Percent

/-! ## Digits -/

theorem ascii_of_value? {c : Char} (h : (value? c).isSome) : c.toNat < 0x80 := by
  have hle {d : Char} (hcd : c ≤ d) (hd : d.toNat < 0x80) : c.toNat < 0x80 :=
    Nat.lt_of_le_of_lt hcd hd
  rw [value?] at h
  simp only [Bool.and_eq_true, decide_eq_true_eq] at h
  split at h
  · exact hle (‹_ ∧ _›).2 (by decide)
  split at h
  · exact hle (‹_ ∧ _›).2 (by decide)
  split at h
  · exact hle (‹_ ∧ _›).2 (by decide)
  · simp at h

theorem value?_digit {n : Nat} (h : n < 16) : value? (digit n) = some n := by
  have hall : ∀ n < 16, value? (digit n) = some n := by decide
  exact hall n h

theorem value?_percent : value? '%' = none := by decide

/-- A set leaves escapes as they are: neither the percent sign nor a digit is in it. -/
def SparesEscapes (set : EncodeSet) : Prop :=
  set '%' = false ∧ ∀ c, (value? c).isSome → set c = false

theorem sparesEscapes_of_ascii {set : EncodeSet} (h : set '%' = false)
    (hall : ∀ n < 0x80, (value? (Char.ofNat n)).isSome → set (Char.ofNat n) = false) :
    SparesEscapes set :=
  ⟨h, fun _ hc ↦ Text.forall_ascii (p := fun c ↦ (value? c).isSome → set c = false) hall
    (ascii_of_value? hc) hc⟩

theorem sparesEscapes_controls : SparesEscapes controls :=
  sparesEscapes_of_ascii (by decide) (by decide)

theorem sparesEscapes_fragment : SparesEscapes fragment :=
  sparesEscapes_of_ascii (by decide) (by decide)

theorem sparesEscapes_path : SparesEscapes path :=
  sparesEscapes_of_ascii (by decide) (by decide)

theorem sparesEscapes_query : SparesEscapes query :=
  sparesEscapes_of_ascii (by decide) (by decide)

theorem sparesEscapes_webQuery : SparesEscapes webQuery :=
  sparesEscapes_of_ascii (by decide) (by decide)

theorem sparesEscapes_userInfo : SparesEscapes userInfo :=
  sparesEscapes_of_ascii (by decide) (by decide)

/-! ## Texts that are encoded already -/

/-- A text that the set leaves as it is. -/
def IsPlain (set : EncodeSet) (cs : List Char) : Prop :=
  ∀ c ∈ cs, c.toNat < 0x80 ∧ set c = false

theorem encodeChar_of_plain {set : EncodeSet} {c : Char} (hascii : c.toNat < 0x80)
    (hset : set c = false) : encodeChar set c = [c] := by
  simp [encodeChar, hascii, hset]

theorem encodeChar_of_not_plain {set : EncodeSet} {c : Char}
    (h : ¬ (c.toNat < 0x80 ∧ set c = false)) :
    encodeChar set c = (String.utf8EncodeChar c).flatMap encodeByte := by
  rw [encodeChar, if_neg (by simpa using h)]

theorem encode_cons (set : EncodeSet) (c : Char) (cs : List Char) :
    encode set (c :: cs) = encodeChar set c ++ encode set cs := List.flatMap_cons

theorem encode_of_isPlain {set : EncodeSet} {cs : List Char} (h : IsPlain set cs) :
    encode set cs = cs := by
  induction cs with
  | nil => rfl
  | cons c cs ih =>
    obtain ⟨hc, hcs⟩ := List.forall_mem_cons.1 h
    rw [encode_cons, encodeChar_of_plain hc.1 hc.2, ih hcs, List.singleton_append]

/-- What is encoded is made of characters that were there and not in the set, of percent signs and
of digits. -/
theorem of_mem_encode {set : EncodeSet} {cs : List Char} {c : Char} (h : c ∈ encode set cs) :
    c ∈ cs ∧ c.toNat < 0x80 ∧ set c = false ∨ c = '%' ∨ (value? c).isSome := by
  obtain ⟨d, hd, hc⟩ := List.mem_flatMap.1 h
  by_cases hplain : d.toNat < 0x80 ∧ set d = false
  · rw [encodeChar_of_plain hplain.1 hplain.2, List.mem_singleton] at hc
    rw [hc]
    exact .inl ⟨hd, hplain⟩
  · rw [encodeChar_of_not_plain hplain] at hc
    obtain ⟨b, -, hb⟩ := List.mem_flatMap.1 hc
    have hlt := b.toNat_lt
    rw [encodeByte, List.mem_cons, List.mem_cons, List.mem_singleton] at hb
    rcases hb with rfl | rfl | rfl
    · exact .inr (.inl rfl)
    · exact .inr (.inr (by rw [value?_digit (by omega)]; rfl))
    · exact .inr (.inr (by rw [value?_digit (by omega)]; rfl))

theorem SparesEscapes.isPlain_encode {set : EncodeSet} (h : SparesEscapes set)
    (cs : List Char) : IsPlain set (encode set cs) := by
  intro c hc
  rcases of_mem_encode hc with ⟨-, hplain⟩ | rfl | hdigit
  · exact hplain
  · exact ⟨by decide, h.1⟩
  · exact ⟨ascii_of_value? hdigit, h.2 c hdigit⟩

/-- What is encoded begins with what was there, or with a percent sign. -/
theorem encodeChar_head (set : EncodeSet) (c : Char) :
    encodeChar set c = [c] ∨ ∃ more, encodeChar set c = '%' :: more := by
  by_cases h : c.toNat < 0x80 ∧ set c = false
  · exact .inl (encodeChar_of_plain h.1 h.2)
  · obtain ⟨b, more, hbytes, -⟩ := Utf8.next_encodeChar c []
    rw [encodeChar_of_not_plain h, hbytes]
    exact .inr ⟨_, rfl⟩

theorem encode_ne_nil {set : EncodeSet} {cs : List Char} (h : cs ≠ []) : encode set cs ≠ [] := by
  obtain ⟨c, cs, rfl⟩ := List.exists_cons_of_ne_nil h
  rw [encode_cons]
  rcases encodeChar_head set c with hhead | ⟨more, hhead⟩ <;> simp [hhead]

/-- What is encoded is not encoded once more. -/
theorem encode_encode {set : EncodeSet} (h : SparesEscapes set) (cs : List Char) :
    encode set (encode set cs) = encode set cs :=
  encode_of_isPlain (h.isPlain_encode cs)

/-! ## Reading -/

@[simp]
theorem decode_nil : decode [] = [] := by rw [decode]

/-- A text begins with two digits in base sixteen. -/
def BeginsWithDigits (cs : List Char) : Prop :=
  ∃ a b rest, cs = a :: b :: rest ∧ (value? a).isSome ∧ (value? b).isSome

theorem decode_escape {a b : Char} {x y : Nat} (ha : value? a = some x) (hb : value? b = some y)
    (rest : List Char) :
    decode ('%' :: a :: b :: rest) = UInt8.ofNat (x * 16 + y) :: decode rest := by
  rw [decode, ha, hb]

theorem decode_cons {c : Char} {rest : List Char} (h : c = '%' → ¬ BeginsWithDigits rest) :
    decode (c :: rest) = String.utf8EncodeChar c ++ decode rest := by
  by_cases hc : c = '%'
  · subst hc
    have hnot := h rfl
    match rest with
    | [] => rw [decode]; intro a b _ _ h; cases h
    | [a] => rw [decode]; intro a b _ _ h; cases h
    | a :: b :: rest =>
      rw [decode]
      have hbytes : String.utf8EncodeChar '%' = [0x25] := by decide
      rw [hbytes, List.singleton_append]
      split
      · exact absurd ⟨a, b, rest, rfl, by simp [*], by simp [*]⟩ hnot
      · rfl
  · rw [decode]
    intro a b _ hcontra _
    exact hc hcontra

/-- A text is read by taking an escape, or one character that begins none, from its head. -/
@[elab_as_elim]
theorem decode_induction {p : List Char → Prop} (nil : p [])
    (escape : ∀ {a b : Char} {x y : Nat} {rest : List Char}, value? a = some x →
      value? b = some y → p rest → p ('%' :: a :: b :: rest))
    (char : ∀ {c : Char} {rest : List Char}, (c = '%' → ¬ BeginsWithDigits rest) → p rest →
      p (c :: rest)) (cs : List Char) : p cs := by
  induction hlength : cs.length using Nat.strongRecOn generalizing cs with
  | ind n ih =>
    cases cs with
    | nil => exact nil
    | cons c rest =>
      rw [List.length_cons] at hlength
      by_cases h : c = '%' ∧ BeginsWithDigits rest
      · obtain ⟨rfl, a, b, rest, rfl, ha, hb⟩ := h
        rw [List.length_cons, List.length_cons] at hlength
        obtain ⟨x, hx⟩ := Option.isSome_iff_exists.1 ha
        obtain ⟨y, hy⟩ := Option.isSome_iff_exists.1 hb
        exact escape hx hy (ih _ (by omega) rest rfl)
      · exact char (fun hc hrest ↦ h ⟨hc, hrest⟩) (ih _ (by omega) rest rfl)

/-- A character of ASCII that is neither a percent sign nor a digit is read as itself, wherever it
stands. -/
theorem mem_decode_of_mem {c : Char} {cs : List Char} (h : c ∈ cs) (hascii : c.toNat < 0x80)
    (hpercent : c ≠ '%') (hdigit : value? c = none) : UInt8.ofNat c.toNat ∈ decode cs := by
  have hself : UInt8.ofNat c.toNat ∈ String.utf8EncodeChar c := by
    rcases Utf8.utf8EncodeChar_cases c with ⟨-, hone⟩ | ⟨hge, -⟩ | ⟨hge, -⟩ | ⟨hge, -⟩
    · rw [hone]
      exact List.mem_singleton_self _
    · exact absurd hascii (by omega)
    · exact absurd hascii (by omega)
    · exact absurd hascii (by omega)
  induction cs using decode_induction with
  | nil => cases h
  | @escape a b x y rest ha hb ih =>
    have hne : ∀ {d : Char} {n : Nat}, value? d = some n → c ≠ d := by
      rintro d n hd rfl
      rw [hdigit] at hd
      cases hd
    have hrest : c ∈ rest := by simpa [hpercent, hne ha, hne hb] using h
    rw [decode_escape ha hb]
    exact List.mem_cons_of_mem _ (ih hrest)
  | @char d rest hd ih =>
    rw [decode_cons hd, List.mem_append]
    rcases List.mem_cons.1 h with rfl | h
    · exact .inl hself
    · exact .inr (ih h)

/-! ## Reading what was encoded -/

theorem decode_encodeByte (b : UInt8) (rest : List Char) :
    decode (encodeByte b ++ rest) = b :: decode rest := by
  have hb := b.toNat_lt
  have hvalue : b.toNat / 16 * 16 + b.toNat % 16 = b.toNat := by omega
  rw [encodeByte]
  change decode ('%' :: _ :: _ :: rest) = _
  rw [decode_escape (value?_digit (by omega)) (value?_digit (by omega)), hvalue,
    UInt8.ofNat_toNat]

theorem decode_encodeBytes (bs : List UInt8) (rest : List Char) :
    decode (bs.flatMap encodeByte ++ rest) = bs ++ decode rest := by
  induction bs with
  | nil => rfl
  | cons b bs ih =>
    rw [List.flatMap_cons, List.append_assoc, decode_encodeByte, ih, List.cons_append]

theorem not_beginsWithDigits_encode {set : EncodeSet} {cs : List Char}
    (h : ¬ BeginsWithDigits cs) : ¬ BeginsWithDigits (encode set cs) := by
  rintro ⟨a, b, rest, hcs, ha, hb⟩
  -- A percent sign is no digit, so both characters were there before.
  have hhead {c : Char} {cs more : List Char} {d : Char} (hd : (value? d).isSome)
      (henc : encode set (c :: cs) = d :: more) : c = d ∧ encode set cs = more := by
    rw [encode_cons] at henc
    rcases encodeChar_head set c with hc | ⟨front, hc⟩ <;> rw [hc] at henc
    · simpa using henc
    · rw [List.cons_append, List.cons.injEq] at henc
      rw [← henc.1, value?_percent] at hd
      simp at hd
  cases cs with
  | nil => simp [encode] at hcs
  | cons c cs =>
    obtain ⟨rfl, hmore⟩ := hhead ha hcs
    cases cs with
    | nil => simp [encode] at hmore
    | cons d cs =>
      obtain ⟨rfl, -⟩ := hhead hb hmore
      exact h ⟨c, d, cs, rfl, ha, hb⟩

/-- An encoded text stands for the same bytes as the text. -/
theorem decode_encode {set : EncodeSet} (h : SparesEscapes set) (cs : List Char) :
    decode (encode set cs) = decode cs := by
  have hplain {c : Char} (hc : (value? c).isSome) : encodeChar set c = [c] :=
    encodeChar_of_plain (ascii_of_value? hc) (h.2 c hc)
  induction cs using decode_induction with
  | nil => rfl
  | @escape a b x y rest ha hb ih =>
    rw [encode_cons, encode_cons, encode_cons, encodeChar_of_plain (by decide) h.1,
      hplain (by rw [ha]; rfl), hplain (by rw [hb]; rfl)]
    simp only [List.singleton_append]
    rw [decode_escape ha hb, decode_escape ha hb, ih]
  | @char c rest hc ih =>
    rw [encode_cons, decode_cons hc, ← ih]
    by_cases hset : c.toNat < 0x80 ∧ set c = false
    · rw [encodeChar_of_plain hset.1 hset.2, List.singleton_append,
        decode_cons fun hpercent ↦ not_beginsWithDigits_encode (hc hpercent)]
    · rw [encodeChar_of_not_plain hset, decode_encodeBytes]

/-! ## Escapes that a text holds by itself -/

/-- A text holds a percent sign with two digits behind it. -/
def HoldsEscape (cs : List Char) : Prop :=
  ∃ a b, ['%', a, b] <:+: cs ∧ (value? a).isSome ∧ (value? b).isSome

theorem holdsEscape_cons {c : Char} {cs : List Char} :
    HoldsEscape (c :: cs) ↔ c = '%' ∧ BeginsWithDigits cs ∨ HoldsEscape cs := by
  constructor
  · rintro ⟨a, b, hinside, ha, hb⟩
    rcases List.infix_cons_iff.1 hinside with hhead | hinside
    · obtain ⟨rfl, rest, rfl⟩ := List.cons_prefix_cons.1 hhead
      exact .inl ⟨rfl, a, b, rest, rfl, ha, hb⟩
    · exact .inr ⟨a, b, hinside, ha, hb⟩
  · rintro (⟨rfl, a, b, rest, rfl, ha, hb⟩ | ⟨a, b, hinside, ha, hb⟩)
    · exact ⟨a, b, ⟨[], rest, rfl⟩, ha, hb⟩
    · exact ⟨a, b, hinside.trans (List.suffix_cons c cs).isInfix, ha, hb⟩

theorem not_holdsEscape_nil : ¬ HoldsEscape [] := by
  rintro ⟨a, b, hinside, -⟩
  simp at hinside

theorem encodeChars_cons (c : Char) (cs : List Char) :
    Utf8.encodeChars (c :: cs) = String.utf8EncodeChar c ++ Utf8.encodeChars cs :=
  List.flatMap_cons

theorem decode_of_not_holdsEscape {cs : List Char} (h : ¬ HoldsEscape cs) :
    decode cs = Utf8.encodeChars cs := by
  induction cs using decode_induction with
  | nil => exact decode_nil
  | @escape a b x y rest ha hb ih =>
    exact absurd (holdsEscape_cons.2 (.inl ⟨rfl, a, b, rest, rfl, by rw [ha]; rfl,
      by rw [hb]; rfl⟩)) h
  | @char c rest hc ih =>
    rw [decode_cons hc, encodeChars_cons, ih fun hrest ↦ h (holdsEscape_cons.2 (.inr hrest))]

theorem length_decode_le (cs : List Char) :
    (decode cs).length ≤ (Utf8.encodeChars cs).length := by
  induction cs using decode_induction with
  | nil => exact Nat.le_of_eq (congrArg List.length decode_nil)
  | escape ha hb ih =>
    rw [decode_escape ha hb, encodeChars_cons, encodeChars_cons, encodeChars_cons]
    simp only [List.length_append, List.length_cons]
    have := String.length_utf8EncodeChar '%'
    have : 1 ≤ '%'.utf8Size := by decide
    omega
  | char hc ih =>
    rw [decode_cons hc, encodeChars_cons, List.length_append, List.length_append]
    exact Nat.add_le_add_left ih _

/-- Of an escape of three bytes one is left. -/
theorem length_decode_lt {cs : List Char} (h : HoldsEscape cs) :
    (decode cs).length < (Utf8.encodeChars cs).length := by
  induction cs using decode_induction with
  | nil => exact absurd h not_holdsEscape_nil
  | @escape a b x y rest ha hb ih =>
    have hrest := length_decode_le rest
    have hsize (c : Char) : 1 ≤ (String.utf8EncodeChar c).length := by
      rw [String.length_utf8EncodeChar]
      exact Char.utf8Size_pos c
    have := hsize '%'
    have := hsize a
    have := hsize b
    rw [decode_escape ha hb, encodeChars_cons, encodeChars_cons, encodeChars_cons]
    simp only [List.length_append, List.length_cons]
    omega
  | char hc ih =>
    rcases holdsEscape_cons.1 h with ⟨hpercent, hdigits⟩ | hrest
    · exact absurd hdigits (hc hpercent)
    · rw [decode_cons hc, encodeChars_cons, List.length_append, List.length_append]
      exact Nat.add_lt_add_left (ih hrest) _

/-- The bytes of a text are read back from what it was encoded to exactly when the text holds no
escape by itself. -/
theorem decode_encode_eq_iff {set : EncodeSet} (h : SparesEscapes set) (cs : List Char) :
    decode (encode set cs) = Utf8.encodeChars cs ↔ ¬ HoldsEscape cs := by
  rw [decode_encode h]
  constructor
  · intro heq hholds
    have := length_decode_lt hholds
    rw [heq] at this
    exact Nat.lt_irrefl _ this
  · exact decode_of_not_holdsEscape

end Telemetry.Percent
