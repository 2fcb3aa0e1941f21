import Mathlib.Algebra.Order.Field.Power
import Mathlib.Data.Rat.Cast.Order
import Mathlib.Tactic.FieldSimp
import Mathlib.Tactic.Linarith
import Mathlib.Tactic.Positivity
import Mathlib.Tactic.Ring
import Telemetry.Proofs.Number.Decimal

/-!
# The numbers that round to a rank

A number is written with the fewest digits that are still within the interval of its rank. That
some digits are is not said by the search for them, which gives up after seventeen. It always has a
hit (`contains_shortest`), and the hit tells the rank, as no number is in two of the intervals
(`eq_of_contains`).

## Intervals

The interval of a rank ends where that of the next one begins (`interval_high_eq`), also where the
exponent changes and the gap between neighbours with it. What they share is the one point in which
they meet, and this belongs to the one of them whose rank is even.

## Seventeen digits

A power of ten has a multiple in the interval as soon as it is less than the interval is wide
(`Interval.isSome_nearest?`). The significand has 53 bits, so the interval is wider than a unit in
the seventeenth digit of its middle (`interval_mid_lt`).
-/

namespace Telemetry

namespace Binary64

theorem parts_of_lt {rank : Nat} (h : rank < 2 ^ 52) : parts rank = (rank, 0) := if_pos h

theorem parts_of_le {rank : Nat} (h : 2 ^ 52 ≤ rank) :
    parts rank = (2 ^ 52 + rank % 2 ^ 52, rank / 2 ^ 52 - 1) := if_neg (Nat.not_lt.2 h)

theorem parts_fst_lt (rank : Nat) : (parts rank).1 < 2 ^ 53 := by
  rcases Nat.lt_or_ge rank (2 ^ 52) with h | h
  · rw [parts_of_lt h]
    dsimp only
    omega
  · rw [parts_of_le h]
    dsimp only
    omega

theorem parts_fst_pos {rank : Nat} (h : 0 < rank) : 0 < (parts rank).1 := by
  rcases Nat.lt_or_ge rank (2 ^ 52) with hrank | hrank
  · rwa [parts_of_lt hrank]
  · rw [parts_of_le hrank]
    exact Nat.lt_of_lt_of_le (by decide) (Nat.le_add_right _ _)

theorem le_parts_fst {rank : Nat} (h : (parts rank).2 ≠ 0) : 2 ^ 52 ≤ (parts rank).1 := by
  rcases Nat.lt_or_ge rank (2 ^ 52) with hrank | hrank
  · rw [parts_of_lt hrank] at h
    exact absurd rfl h
  · rw [parts_of_le hrank]
    exact Nat.le_add_right _ _

theorem parts_fst_mod_two (rank : Nat) : (parts rank).1 % 2 = rank % 2 := by
  rcases Nat.lt_or_ge rank (2 ^ 52) with h | h
  · rw [parts_of_lt h]
  · rw [parts_of_le h]
    dsimp only
    omega

/-- The significand of the next rank is one more, or the least one with the next exponent. -/
theorem parts_succ (rank : Nat) : parts (rank + 1) =
    if (parts rank).1 + 1 = 2 ^ 53 then (2 ^ 52, (parts rank).2 + 1)
    else ((parts rank).1 + 1, (parts rank).2) := by
  rcases Nat.lt_or_ge rank (2 ^ 52) with h | h
  · rw [parts_of_lt h, if_neg (by dsimp only; omega)]
    rcases Nat.lt_or_ge (rank + 1) (2 ^ 52) with hnext | hnext
    · rw [parts_of_lt hnext]
    · obtain rfl : rank = 2 ^ 52 - 1 := by omega
      exact parts_of_le hnext
  · rw [parts_of_le h, parts_of_le (Nat.le_succ_of_le h)]
    dsimp only
    split
    · exact Prod.ext (by dsimp only; omega) (by dsimp only; omega)
    · exact Prod.ext (by dsimp only; omega) (by dsimp only; omega)

end Binary64

namespace Decimal

open Binary64

theorem two_pow_pos (n : Nat) : 0 < Nat.pow 2 n := Nat.pow_pos Nat.two_pos

theorem interval_den_eq (rank other : Nat) : (interval rank).den = (interval other).den := rfl

theorem interval_den_pos (rank : Nat) : 0 < (interval rank).den := by
  unfold interval
  apply Nat.mul_pos
  · decide
  · apply two_pow_pos

/-- How wide a step of the significand is, in quarters. -/
def unit (rank : Nat) : Nat := 2 ^ (parts rank).2

theorem interval_low (rank : Nat) : (interval rank).low = 4 * (parts rank).1 * unit rank -
    if (parts rank).1 = 2 ^ 52 ∧ (parts rank).2 ≠ 0 then unit rank else 2 * unit rank := by
  have hpow : Nat.pow 2 52 = 2 ^ 52 := rfl
  have hunit : Nat.pow 2 (parts rank).2 = unit rank := rfl
  simp only [interval, hpow, hunit, Bool.and_eq_true, decide_eq_true_eq]

theorem interval_mid (rank : Nat) : (interval rank).mid = 4 * (parts rank).1 * unit rank := rfl

theorem interval_high (rank : Nat) :
    (interval rank).high = 4 * (parts rank).1 * unit rank + 2 * unit rank := rfl

theorem interval_closed (rank : Nat) : (interval rank).closed = decide (rank % 2 = 0) := by
  rw [← parts_fst_mod_two]
  rfl

/-- The interval goes beyond its middle, and not only downwards. -/
structure Interval.IsAround (i : Interval) : Prop where
  den_pos : 0 < i.den
  low_le_mid : i.low ≤ i.mid
  mid_lt_high : i.mid < i.high

theorem isAround_interval (rank : Nat) : (interval rank).IsAround where
  den_pos := interval_den_pos rank
  low_le_mid := Nat.sub_le _ _
  mid_lt_high := Nat.lt_add_of_pos_right (Nat.mul_pos Nat.two_pos (Nat.pow_pos Nat.two_pos))

/-- The interval of a rank ends where that of the next one begins. -/
theorem interval_high_eq (rank : Nat) : (interval rank).high = (interval (rank + 1)).low := by
  rw [interval_high, interval_low, unit, unit, parts_succ]
  generalize hm : (parts rank).1 = m
  generalize hq : (parts rank).2 = q
  by_cases hlast : m + 1 = 2 ^ 53
  · obtain rfl : m = 2 ^ 53 - 1 := by omega
    rw [if_pos hlast, if_pos ⟨rfl, Nat.succ_ne_zero q⟩]
    dsimp only
    rw [Nat.pow_succ]
    omega
  · have hwide : ¬ (m + 1 = 2 ^ 52 ∧ q ≠ 0) := by
      rintro ⟨hnext, hq'⟩
      have hle := le_parts_fst (hq ▸ hq')
      omega
    rw [if_neg hlast]
    dsimp only
    rw [if_neg hwide, Nat.mul_succ, Nat.add_mul]
    omega

/-- A number lies in the interval, at one of its ends only when that is closed. -/
def Interval.Contains (i : Interval) (x : ℚ) : Prop :=
  if i.closed then i.low ≤ x * i.den ∧ x * i.den ≤ i.high
  else i.low < x * i.den ∧ x * i.den < i.high

theorem Interval.Contains.le {i : Interval} {x : ℚ} (h : i.Contains x) :
    i.low ≤ x * i.den ∧ x * i.den ≤ i.high := by
  rw [Contains] at h
  split at h
  · exact h
  · exact ⟨h.1.le, h.2.le⟩

theorem contains_zero : (interval 0).Contains 0 := by
  have hlow : (interval 0).low = 0 := by
    rw [interval_low, parts_of_lt (Nat.two_pow_pos 52), Nat.mul_zero, Nat.zero_mul, Nat.zero_sub]
  rw [Interval.Contains, interval_closed, if_pos (by decide), zero_mul, hlow]
  exact ⟨le_of_eq Nat.cast_zero, Nat.cast_nonneg _⟩

theorem strictMono_interval_low : StrictMono fun rank ↦ (interval rank).low := by
  refine strictMono_nat_of_lt_succ fun rank ↦ ?_
  have haround := isAround_interval rank
  exact (haround.low_le_mid.trans_lt haround.mid_lt_high).trans_eq (interval_high_eq rank)

/-- Where two intervals meet, one of them is open. -/
theorem not_contains_of_lt {rank other : Nat} (hlt : rank < other) {x : ℚ}
    (h : (interval rank).Contains x) : ¬ (interval other).Contains x := by
  intro h'
  have hle : (interval (rank + 1)).low ≤ (interval other).low :=
    strictMono_interval_low.monotone hlt
  have hhigh := h.le.2
  have hlow := h'.le.1
  rw [interval_den_eq other rank] at hlow
  rw [interval_high_eq] at hhigh
  have hmeet : (interval other).low = (interval (rank + 1)).low := by
    refine le_antisymm ?_ hle
    exact_mod_cast hlow.trans hhigh
  obtain rfl : rank + 1 = other := strictMono_interval_low.injective hmeet.symm
  rw [Interval.Contains, interval_closed, interval_high_eq] at h
  rw [Interval.Contains, interval_closed, interval_den_eq (rank + 1) rank] at h'
  rcases Nat.mod_two_eq_zero_or_one rank with heven | hodd
  · rw [if_neg (by rw [decide_eq_true_eq]; omega)] at h'
    exact absurd h'.1 (not_lt.2 hhigh)
  · rw [if_neg (by rw [decide_eq_true_eq]; omega)] at h
    exact absurd h.2 (not_lt.2 hlow)

theorem eq_of_contains {rank other : Nat} {x : ℚ} (h : (interval rank).Contains x)
    (h' : (interval other).Contains x) : rank = other := by
  rcases Nat.lt_trichotomy rank other with hlt | heq | hgt
  · exact absurd h' (not_contains_of_lt hlt h)
  · exact heq
  · exact absurd h (not_contains_of_lt hgt h')

/-! ## The search for digits -/

theorem Interval.holds_iff {i : Interval} {n num den : Nat} (hpos : 0 < den) :
    i.holds n num den = true ↔ i.Contains (n * (num / den)) := by
  have hscale : (n * (num / den) : ℚ) * i.den = (n * num * i.den : Nat) / den := by
    push_cast
    ring
  have hposq : (0 : ℚ) < den := Nat.cast_pos.2 hpos
  rw [Contains, hscale, le_div_iff₀ hposq, div_le_iff₀ hposq, lt_div_iff₀ hposq, div_lt_iff₀ hposq]
  cases hclosed : i.closed with
  | true =>
    simp only [holds, hclosed, if_true, Bool.and_eq_true, decide_eq_true_eq]
    norm_cast
  | false =>
    simp only [holds, hclosed, if_false, Bool.false_eq_true, Bool.and_eq_true, decide_eq_true_eq]
    norm_cast

theorem Interval.holds_of_lt {i : Interval} {n num den : Nat} (hlow : i.low * den < n * num * i.den)
    (hhigh : n * num * i.den < i.high * den) : i.holds n num den = true := by
  rw [holds]
  split
  · exact Bool.and_eq_true_iff.2 ⟨decide_eq_true hlow.le, decide_eq_true hhigh.le⟩
  · exact Bool.and_eq_true_iff.2 ⟨decide_eq_true hlow, decide_eq_true hhigh⟩

theorem Interval.holds_of_nearest? {i : Interval} {num den n : Nat}
    (h : i.nearest? num den = some n) : i.holds n num den = true := by
  rw [nearest?] at h
  split at h
  · next hbelow habove =>
    split at h
    · exact Option.some.inj h ▸ hbelow
    · exact Option.some.inj h ▸ habove
  · next hbelow _ => exact Option.some.inj h ▸ hbelow
  · next habove => exact Option.some.inj h ▸ habove
  · cases h

/-- A grid that is finer than the interval is wide has a point in it. -/
theorem Interval.isSome_nearest? {i : Interval} (h : i.IsAround) {num den : Nat} (hnum : 0 < num)
    (hden : 0 < den) (hfine : num * i.den + i.low * den < i.high * den) :
    (i.nearest? num den).isSome = true := by
  have hstep : 0 < i.den * num := Nat.mul_pos h.den_pos hnum
  have hbelow := Nat.div_mul_le_self (i.mid * den) (i.den * num)
  have habove := Nat.lt_div_mul_add hstep (a := i.mid * den)
  rw [nearest?]
  generalize i.mid * den / (i.den * num) = below at *
  have hlow : i.low * den ≤ i.mid * den := Nat.mul_le_mul_right den h.low_le_mid
  have hhigh : i.mid * den < i.high * den := Nat.mul_lt_mul_of_pos_right h.mid_lt_high hden
  have hcomm : below * (i.den * num) = below * num * i.den := by ring
  have hnext : (below + 1) * num * i.den = below * num * i.den + num * i.den := by ring
  have hcomm' : i.den * num = num * i.den := Nat.mul_comm _ _
  have hone : i.holds below num den = true ∨ i.holds (below + 1) num den = true := by
    by_cases hin : i.low * den < below * num * i.den
    · exact .inl (holds_of_lt hin (by omega))
    · exact .inr (holds_of_lt (by omega) (by omega))
  split
  · rfl
  · rfl
  · rfl
  · next hbelow habove =>
    rw [hbelow, habove] at hone
    exact absurd hone (by decide)

/-- The multiple of a power of ten that is nearest to the middle of the interval, if it lies
inside. -/
def Interval.hit? (i : Interval) (scale : Int) : Option Nat :=
  if scale ≥ 0 then i.nearest? (Nat.pow 10 scale.toNat) 1
  else i.nearest? 1 (Nat.pow 10 (-scale).toNat)

theorem Interval.search_succ (i : Interval) (top : Int) (digits tries : Nat) :
    i.search top digits (tries + 1) = match i.hit? (top - digits) with
      | some n => some (n, top - digits)
      | none => i.search top (digits + 1) tries := rfl

theorem zpow_of_nonneg {scale : Int} (h : 0 ≤ scale) :
    (10 : ℚ) ^ scale = (10 ^ scale.toNat : Nat) := by
  obtain ⟨n, rfl⟩ := Int.eq_ofNat_of_zero_le h
  simp

theorem zpow_of_neg {scale : Int} (h : scale < 0) :
    (10 : ℚ) ^ scale = 1 / (10 ^ (-scale).toNat : Nat) := by
  obtain ⟨n, hn⟩ := Int.eq_ofNat_of_zero_le (show 0 ≤ -scale by omega)
  obtain rfl : scale = -n := by omega
  simp

theorem Interval.contains_of_hit? {i : Interval} {scale : Int} {n : Nat}
    (h : i.hit? scale = some n) : i.Contains (n * 10 ^ scale) := by
  rw [hit?] at h
  split at h
  · next hscale =>
    have hholds := (holds_iff Nat.one_pos).1 (holds_of_nearest? h)
    rw [zpow_of_nonneg hscale]
    rwa [Nat.cast_one, div_one] at hholds
  · next hscale =>
    have hholds := (holds_iff (Nat.pow_pos (by decide))).1 (holds_of_nearest? h)
    rw [zpow_of_neg (by omega)]
    rwa [Nat.cast_one] at hholds

theorem Interval.isSome_hit? {i : Interval} (h : i.IsAround) {scale : Int}
    (hfine : 10 ^ scale * i.den + i.low < (i.high : ℚ)) : (i.hit? scale).isSome = true := by
  rw [hit?]
  split
  · next hscale =>
    refine isSome_nearest? h (Nat.pow_pos (by decide)) Nat.one_pos ?_
    rw [zpow_of_nonneg hscale] at hfine
    rw [Nat.mul_one, Nat.mul_one]
    exact_mod_cast hfine
  · next hscale =>
    have hpos : 0 < Nat.pow 10 (-scale).toNat := Nat.pow_pos (by decide)
    refine isSome_nearest? h Nat.one_pos hpos ?_
    have hposq : (0 : ℚ) < (10 ^ (-scale).toNat : Nat) := Nat.cast_pos.2 hpos
    rw [zpow_of_neg (by omega), one_div, inv_mul_eq_div, ← lt_sub_iff_add_lt, div_lt_iff₀ hposq,
      sub_mul, lt_sub_iff_add_lt] at hfine
    rw [Nat.one_mul]
    exact_mod_cast hfine

theorem Interval.contains_of_search {i : Interval} {top scale : Int} {digits tries n : Nat}
    (h : i.search top digits tries = some (n, scale)) : i.Contains (n * 10 ^ scale) := by
  induction tries generalizing digits with
  | zero => cases h
  | succ tries ih =>
    rw [search_succ] at h
    cases hhit : i.hit? (top - digits) with
    | none =>
      rw [hhit] at h
      exact ih h
    | some m =>
      rw [hhit] at h
      obtain ⟨rfl, rfl⟩ := Prod.mk.inj (Option.some.inj h)
      exact contains_of_hit? hhit

/-- The search ends with a hit if its last try is one. -/
theorem Interval.isSome_search {i : Interval} {top : Int} {digits tries : Nat}
    (h : (i.hit? (top - (digits + tries : Nat))).isSome = true) :
    (i.search top digits (tries + 1)).isSome = true := by
  induction tries generalizing digits with
  | zero =>
    obtain ⟨n, hn⟩ := Option.isSome_iff_exists.1 h
    rw [Nat.add_zero] at hn
    rw [search_succ, hn]
    rfl
  | succ tries ih =>
    rw [search_succ]
    cases i.hit? (top - digits) with
    | some n => rfl
    | none => exact ih (by rwa [Nat.add_right_comm])

/-- The middle of the interval has the digits before the point that it is said to have. -/
theorem Interval.top_le {i : Interval} (h : i.IsAround) (hmid : 0 < i.mid) :
    (10 : ℚ) ^ (i.top - 1) * i.den ≤ i.mid := by
  rw [top]
  split
  · next hle =>
    -- The whole part has a digit for each of them.
    have hwhole := pow_length_decimalDigits_le (Nat.div_pos hle h.den_pos)
    have hlength := List.length_pos_iff.2 (Text.decimalDigits_ne_nil (i.mid / i.den))
    generalize (Text.decimalDigits (i.mid / i.den)).length = digits at *
    rw [zpow_of_nonneg (by omega), show ((digits : Int) - 1).toNat = digits - 1 by omega]
    exact_mod_cast (Nat.mul_le_mul_right i.den hwhole).trans (Nat.div_mul_le_self i.mid i.den)
  · next hlt =>
    have hlength := List.length_pos_iff.2 (Text.decimalDigits_ne_nil (i.den / i.mid))
    have hquotient := lt_pow_length_decimalDigits (i.den / i.mid)
    rw [Nat.div_lt_iff_lt_mul hmid] at hquotient
    generalize (Text.decimalDigits (i.den / i.mid)).length = zeros at *
    dsimp only
    have hscale {count : Nat} (h : i.den ≤ i.mid * 10 ^ count) :
        (10 : ℚ) ^ (-(count : Int)) * i.den ≤ i.mid := by
      rw [zpow_neg, zpow_natCast, inv_mul_le_iff₀ (by positivity), mul_comm]
      exact_mod_cast h
    split
    · rw [show (1 - (zeros : Int) - 1) = -(zeros : Int) by ring]
      exact hscale (by rw [Nat.mul_comm]; exact hquotient.le)
    · next hnext =>
      rw [show (2 - (zeros : Int) - 1) = -((zeros - 1 : Nat) : Int) by omega]
      exact hscale (Nat.not_lt.1 hnext)

/-- The interval is wider than the middle is in units of its seventeenth digit. -/
theorem interval_mid_lt {rank : Nat} (h : 0 < rank) :
    (interval rank).mid + 10 ^ 16 * (interval rank).low < 10 ^ 16 * (interval rank).high := by
  have hpos := parts_fst_pos h
  have hlt := parts_fst_lt rank
  have hunit : 0 < unit rank := two_pow_pos _
  rw [interval_mid, interval_low, interval_high, Nat.mul_assoc]
  generalize (parts rank).1 = m at *
  generalize unit rank = u at *
  split
  · next hnarrow =>
    rw [hnarrow.1]
    omega
  · have hle : m * u ≤ (2 ^ 53 - 1) * u := Nat.mul_le_mul_right u (by omega)
    have hge : 1 * u ≤ m * u := Nat.mul_le_mul_right u hpos
    omega

/-- Where the interval is wider than the middle is in units of its seventeenth digit, the search
ends with a hit. -/
theorem Interval.isSome_search_of_wide {i : Interval} (h : i.IsAround) (hmid : 0 < i.mid)
    (hwide : i.mid + 10 ^ 16 * i.low < 10 ^ 16 * i.high) :
    (i.search i.top 1 17).isSome = true := by
  refine isSome_search (isSome_hit? h ?_)
  have htop := top_le h hmid
  have hsplit : (10 : ℚ) ^ (i.top - 1) = 10 ^ 16 * 10 ^ (i.top - (1 + 16 : Nat)) := by
    rw [← zpow_natCast, ← zpow_add₀ (by norm_num)]
    congr 1
    push_cast
    ring
  have hwideq : (i.mid : ℚ) + 10 ^ 16 * i.low < 10 ^ 16 * i.high := by exact_mod_cast hwide
  rw [hsplit] at htop
  linarith

/-- The digits that a number is written with stand for a number that rounds to it. -/
theorem contains_shortest {rank : Nat} (h : 0 < rank) :
    (interval rank).Contains ((shortest rank).1 * 10 ^ (shortest rank).2) := by
  have hmid : 0 < (interval rank).mid := by
    rw [interval_mid]
    exact Nat.mul_pos (Nat.mul_pos (by decide) (parts_fst_pos h)) (two_pow_pos _)
  have hsome := Interval.isSome_search_of_wide (isAround_interval rank) hmid (interval_mid_lt h)
  obtain ⟨⟨n, scale⟩, hsearch⟩ := Option.isSome_iff_exists.1 hsome
  rw [shortest, hsearch]
  exact Interval.contains_of_search hsearch

end Decimal

end Telemetry
