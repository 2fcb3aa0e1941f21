import Mathlib.Data.List.DropRight
import Telemetry.Proofs.Number.Rounding

/-!
# The text of a number

The digits that a number is written with, read as a numeral, stand for a number in the interval of
its rank. From the text of a number one can therefore tell which number it is (`text_inj`), except
that all there is of what is not a number has one text. And what is written as a number is read as
one (`isSome_readChars?_text`).
-/

namespace Telemetry

namespace Decimal

/-! ## Positional notation -/

/-- The number that a numeral stands for. -/
def Numeral.toRat (d : Numeral) : ℚ := value d.digits * 10 ^ d.exponent

/-- Digits with others behind a point, and the numeral that they are. -/
inductive IsPositional : List Char → Numeral → Prop where
  | whole {whole : List Char} (hwhole : ∀ c ∈ whole, isDigit c = true) (hne : whole ≠ []) :
      IsPositional whole ⟨whole, 0⟩
  | pointed {whole fraction : List Char} (hwhole : ∀ c ∈ whole, isDigit c = true) (hne : whole ≠ [])
      (hfraction : ∀ c ∈ fraction, isDigit c = true) :
      IsPositional (whole ++ '.' :: fraction) ⟨whole ++ fraction, -fraction.length⟩

theorem IsPositional.readNumeral? {cs : List Char} {d : Numeral} (h : IsPositional cs d) :
    readNumeral? cs = some d := by
  cases h with
  | whole hwhole hne =>
    rw [Decimal.readNumeral?, List.takeWhile_eq_self_iff.2 hwhole,
      List.dropWhile_eq_nil_iff.2 hwhole]
    dsimp only
    rw [List.isEmpty_eq_false_iff.2 hne, List.append_nil]
    rfl
  | @pointed whole fraction hwhole hne hfraction =>
    have hpoint : ∀ c ∈ ('.' :: fraction).head?, isDigit c = false := by
      intro c hc
      obtain rfl : '.' = c := Option.some.inj hc
      decide
    have hrest : fraction.takeWhile isDigit = fraction ∧ fraction.dropWhile isDigit = [] :=
      ⟨List.takeWhile_eq_self_iff.2 hfraction, List.dropWhile_eq_nil_iff.2 hfraction⟩
    rw [Decimal.readNumeral?, Text.takeWhile_append hwhole hpoint,
      Text.dropWhile_append hwhole hpoint]
    change (if (whole.isEmpty && (fraction.takeWhile isDigit).isEmpty) = true then none
      else (readExponent? (fraction.dropWhile isDigit)).map fun e ↦
        Numeral.mk (whole ++ fraction.takeWhile isDigit)
          (e - (fraction.takeWhile isDigit).length)) = _
    rw [hrest.1, hrest.2, List.isEmpty_eq_false_iff.2 hne, Bool.false_and,
      if_neg Bool.false_ne_true]
    change some (Numeral.mk (whole ++ fraction) (0 - fraction.length)) = _
    rw [Int.zero_sub]

theorem IsPositional.isDigit_of_head? {cs : List Char} {d : Numeral} (h : IsPositional cs d) :
    ∀ c ∈ cs.head?, isDigit c = true := by
  have hhead (whole rest : List Char) (hwhole : ∀ c ∈ whole, isDigit c = true) (hne : whole ≠ []) :
      ∀ c ∈ (whole ++ rest).head?, isDigit c = true := by
    intro c hc
    rw [List.head?_append_of_ne_nil _ hne] at hc
    exact hwhole c (List.mem_of_mem_head? hc)
  cases h with
  | whole hwhole hne => exact fun c hc ↦ hwhole c (List.mem_of_mem_head? hc)
  | pointed hwhole hne hfraction => exact hhead _ _ hwhole hne

/-- Zeros at the end of digits, and what stands before them. -/
theorem exists_append_replicate (digits : List Char) : ∃ count,
    (digits.reverse.dropWhile (· = '0')).reverse ++ List.replicate count '0' = digits := by
  have hsplit : digits.rdropWhile (· = '0') ++ digits.rtakeWhile (· = '0') = digits :=
    List.rdropWhile_append_rtakeWhile
  have hzeros : ∀ c ∈ digits.rtakeWhile (· = '0'), c = '0' := fun c hc ↦
    by simpa using List.mem_rtakeWhile_imp hc
  rw [List.eq_replicate_of_mem hzeros] at hsplit
  exact ⟨_, hsplit⟩

/-- Digits with others behind the point stand for what they are when zeros at the end are left
out. -/
theorem exists_isPositional_cut {whole behind : List Char} (hwhole : ∀ c ∈ whole, isDigit c = true)
    (hne : whole ≠ []) (hbehind : ∀ c ∈ behind, isDigit c = true) :
    ∃ d, IsPositional (if (behind.reverse.dropWhile (· = '0')).isEmpty then whole
      else whole ++ '.' :: (behind.reverse.dropWhile (· = '0')).reverse) d ∧
      d.toRat = value (whole ++ behind) * 10 ^ (-(behind.length : Int)) := by
  obtain ⟨count, hcount⟩ := exists_append_replicate behind
  generalize behind.reverse.dropWhile (· = '0') = fraction at *
  have hrat : (value (whole ++ fraction.reverse) : ℚ) * 10 ^ (-(fraction.reverse.length : Int)) =
      value (whole ++ behind) * 10 ^ (-(behind.length : Int)) := by
    rw [← hcount, ← List.append_assoc, value_append_replicate, List.length_append,
      List.length_replicate, Nat.cast_mul, Nat.cast_add, neg_add, zpow_add₀ (by norm_num), zpow_neg,
      zpow_neg _ (count : Int), zpow_natCast, zpow_natCast]
    push_cast
    field_simp
  rw [← hcount, List.forall_mem_append] at hbehind
  split
  · next hempty =>
    rw [List.isEmpty_iff.1 hempty, List.reverse_nil, List.append_nil] at hrat
    exact ⟨_, .whole hwhole hne, hrat⟩
  · exact ⟨_, .pointed hwhole hne hbehind.1, hrat⟩

/-- What is written in positional notation stands for what was to be written. -/
theorem exists_isPositional (n : Nat) (scale : Int) :
    ∃ d, IsPositional (positional n scale) d ∧ d.toRat = n * 10 ^ scale := by
  have hzeros : ∀ count, ∀ c ∈ List.replicate count '0', isDigit c = true := by
    intro count c hc
    rw [List.eq_of_mem_replicate hc]
    decide
  have hdigits : ∀ c ∈ Text.decimalDigits n, isDigit c = true := fun c ↦
    isDigit_of_mem_decimalDigits
  unfold positional
  split
  · next hscale =>
    refine ⟨_, .whole (List.forall_mem_append.2 ⟨hdigits, hzeros _⟩) ?_, ?_⟩
    · simp [Text.decimalDigits_ne_nil]
    · rw [Numeral.toRat, value_append_replicate, value_decimalDigits, zpow_zero, mul_one,
        zpow_of_nonneg hscale, Nat.cast_mul]
  · next hscale =>
    dsimp only
    generalize hpadded : List.replicate ((-scale).toNat + 1 - (Text.decimalDigits n).length) '0' ++
      Text.decimalDigits n = padded
    have hvalue : value padded = n := by
      rw [← hpadded, value_replicate_append, value_decimalDigits]
    have hall : ∀ c ∈ padded, isDigit c = true := by
      rw [← hpadded]
      exact List.forall_mem_append.2 ⟨hzeros _, hdigits⟩
    -- The padding leaves a digit before the point.
    have hlength : (-scale).toNat + 1 ≤ padded.length := by
      rw [← hpadded, List.length_append, List.length_replicate]
      omega
    have hne : padded.take (padded.length - (-scale).toNat) ≠ [] := by
      rw [← List.length_pos_iff, List.length_take]
      omega
    have hplaces : (-((padded.drop (padded.length - (-scale).toNat)).length : Int)) = scale := by
      rw [List.length_drop]
      omega
    obtain ⟨d, hd, hrat⟩ := exists_isPositional_cut
      (fun c hc ↦ hall c (List.mem_of_mem_take hc)) hne
      (fun c hc ↦ hall c (List.mem_of_mem_drop hc))
    rw [List.take_append_drop, hvalue, hplaces] at hrat
    exact ⟨d, hd, hrat⟩

end Decimal

namespace Binary64

open Decimal

/-- The text of a number without its sign. -/
def bareText (x : Binary64) : List Char :=
  if x.isInfinite then ['i', 'n', 'f']
  else if x.rank = 0 then ['0']
  else positional (shortest x.rank).1 (shortest x.rank).2

theorem toList_text {x : Binary64} (h : x.isNaN = false) :
    x.text.toList = (if x.negative then ['-'] else []) ++ x.bareText := by
  have hsign : (if x.negative then "-" else "").toList = if x.negative then ['-'] else [] := by
    cases x.negative <;> rfl
  rw [text, h, if_neg Bool.false_ne_true, bareText]
  dsimp only
  split
  · rw [String.toList_append, hsign]
    rfl
  · split
    · rw [String.toList_append, hsign]
      rfl
    · rw [String.toList_append, hsign, String.toList_ofList]

/-- The digits of a finite number stand for a number that rounds to it. -/
theorem exists_isPositional_bareText {x : Binary64} (h : x.isInfinite = false) :
    ∃ d, IsPositional x.bareText d ∧ (interval x.rank).Contains d.toRat := by
  rw [bareText, h, if_neg Bool.false_ne_true]
  split
  · next hzero =>
    have hwritten : IsPositional ['0'] ⟨['0'], 0⟩ :=
      .whole (List.forall_mem_singleton.2 (by decide)) (List.cons_ne_nil _ _)
    have hrat : (Numeral.mk ['0'] 0).toRat = 0 := by
      rw [Numeral.toRat, show value ['0'] = 0 from rfl, Nat.cast_zero, zero_mul]
    rw [hzero]
    exact ⟨_, hwritten, hrat ▸ contains_zero⟩
  · next hzero =>
    obtain ⟨d, hd, hrat⟩ := exists_isPositional (shortest x.rank).1 (shortest x.rank).2
    refine ⟨d, hd, ?_⟩
    rw [hrat]
    exact contains_shortest (Nat.pos_of_ne_zero hzero)

theorem isDigit_of_head?_bareText {x : Binary64} :
    ∀ c ∈ x.bareText.head?, c = 'i' ∨ isDigit c = true := by
  intro c hc
  cases h : x.isInfinite with
  | true =>
    rw [bareText, h, if_pos rfl] at hc
    exact .inl (Option.some.inj hc).symm
  | false =>
    obtain ⟨d, hd, -⟩ := exists_isPositional_bareText h
    exact .inr (hd.isDigit_of_head? c hc)

/-- The digits tell the magnitude. -/
theorem rank_eq_of_bareText_eq {x y : Binary64} (h : x.bareText = y.bareText) :
    x.rank = y.rank := by
  have hinf {x y : Binary64} (hx : x.isInfinite = true) (hy : y.isInfinite = false)
      (h : x.bareText = y.bareText) : False := by
    obtain ⟨d, hd, -⟩ := exists_isPositional_bareText hy
    have hhead := hd.isDigit_of_head?
    rw [← h, bareText, hx] at hhead
    exact absurd (hhead 'i' rfl) (by decide)
  cases hx : x.isInfinite with
  | true =>
    cases hy : y.isInfinite with
    | true =>
      rw [isInfinite, beq_iff_eq] at hx hy
      rw [hx, hy]
    | false => exact (hinf hx hy h).elim
  | false =>
    cases hy : y.isInfinite with
    | true => exact (hinf hy hx h.symm).elim
    | false =>
      obtain ⟨d, hd, hcontains⟩ := exists_isPositional_bareText hx
      obtain ⟨d', hd', hcontains'⟩ := exists_isPositional_bareText hy
      -- The same text is read as the same numeral.
      have hread := hd.readNumeral?
      rw [h, hd'.readNumeral?, Option.some.injEq] at hread
      rw [hread] at hcontains'
      exact eq_of_contains hcontains hcontains'

/-- The text of a number that is one begins with its sign, with a digit or with the name of the
infinite value. -/
theorem head?_text {x : Binary64} (h : x.isNaN = false) :
    ∀ c ∈ x.text.toList.head?, c = '-' ∨ c = 'i' ∨ isDigit c = true := by
  intro c hc
  rw [toList_text h] at hc
  cases hsign : x.negative with
  | true =>
    rw [hsign] at hc
    exact .inl (Option.some.inj hc).symm
  | false =>
    rw [hsign] at hc
    exact .inr (isDigit_of_head?_bareText c hc)

theorem head?_text_eq_minus_iff {x : Binary64} (h : x.isNaN = false) :
    x.text.toList.head? = some '-' ↔ x.negative = true := by
  rw [toList_text h]
  cases x.negative with
  | true => exact iff_of_true rfl rfl
  | false =>
    exact iff_of_false (fun hhead ↦ absurd (isDigit_of_head?_bareText _ hhead) (by decide)) nofun

theorem text_of_isNaN {x : Binary64} (h : x.isNaN = true) : x.text = "NaN" := by
  rw [text, h, if_pos rfl]

theorem text_ne_nan {x : Binary64} (h : x.isNaN = false) : x.text ≠ "NaN" := by
  intro htext
  have hhead := head?_text h
  rw [htext] at hhead
  exact absurd (hhead 'N' rfl) (by decide)

theorem eq_of_text_eq {x y : Binary64} (hx : x.isNaN = false) (hy : y.isNaN = false)
    (h : x.text = y.text) : x = y := by
  have hsign : x.negative = y.negative := by
    rw [Bool.eq_iff_iff, ← head?_text_eq_minus_iff hx, ← head?_text_eq_minus_iff hy, h]
  have hlist := congrArg String.toList h
  rw [toList_text hx, toList_text hy, hsign] at hlist
  have hrank := rank_eq_of_bareText_eq (List.append_cancel_left hlist)
  cases x
  cases y
  cases hsign
  cases hrank
  rfl

/-- **A number is told by its text.** What is not a number has one text, whatever its bits are. -/
theorem text_inj {x y : Binary64} :
    x.text = y.text ↔ x = y ∨ (x.isNaN = true ∧ y.isNaN = true) := by
  constructor
  · intro h
    cases hx : x.isNaN with
    | true =>
      rw [text_of_isNaN hx] at h
      exact .inr ⟨rfl, Bool.not_eq_false _ ▸ fun hy ↦ text_ne_nan hy h.symm⟩
    | false =>
      refine .inl (eq_of_text_eq hx (Bool.not_eq_true _ ▸ fun hy ↦ ?_) h)
      rw [text_of_isNaN hy] at h
      exact text_ne_nan hx h
  · rintro (rfl | ⟨hx, hy⟩)
    · rfl
    · rw [text_of_isNaN hx, text_of_isNaN hy]

/-- The bound of the last bucket is written in a way of its own. -/
theorem text_ne_plusInf (x : Binary64) : x.text ≠ "+Inf" := by
  intro h
  cases hx : x.isNaN with
  | true =>
    rw [text_of_isNaN hx] at h
    exact absurd h (by decide)
  | false =>
    have hhead := head?_text hx
    rw [h] at hhead
    exact absurd (hhead '+' rfl) (by decide)

/-! ## Reading -/

theorem isSome_readMagnitude? {cs : List Char} {d : Numeral} (h : IsPositional cs d)
    (negative : Bool) : (readMagnitude? negative cs).isSome = true := by
  unfold readMagnitude?
  dsimp only
  split
  · rfl
  · split
    · rfl
    · rw [h.readNumeral?]
      rfl

theorem readChars?_bareText (x : Binary64) :
    readChars? x.bareText = readMagnitude? false x.bareText := by
  have hhead := isDigit_of_head?_bareText (x := x)
  rw [readChars?.eq_def]
  split
  · next heq =>
    rw [heq] at hhead
    exact absurd (hhead '+' rfl) (by decide)
  · next heq =>
    rw [heq] at hhead
    exact absurd (hhead '-' rfl) (by decide)
  · rfl

theorem isSome_readMagnitude?_bareText (x : Binary64) (negative : Bool) :
    (readMagnitude? negative x.bareText).isSome = true := by
  cases h : x.isInfinite with
  | true =>
    rw [bareText, h, if_pos rfl]
    cases negative <;> decide +kernel
  | false =>
    obtain ⟨d, hd, -⟩ := exists_isPositional_bareText h
    exact isSome_readMagnitude? hd negative

end Binary64

/-- Whatever is written as a number is read as one. -/
theorem Decimal.isSome_readChars?_text (x : Binary64) :
    (readChars? x.text.toList).isSome = true := by
  cases h : x.isNaN with
  | true =>
    rw [x.text_of_isNaN h]
    decide +kernel
  | false =>
    rw [x.toList_text h]
    cases x.negative with
    | true => exact x.isSome_readMagnitude?_bareText true
    | false =>
      change (readChars? x.bareText).isSome = true
      rw [x.readChars?_bareText]
      exact x.isSome_readMagnitude?_bareText false

end Telemetry
