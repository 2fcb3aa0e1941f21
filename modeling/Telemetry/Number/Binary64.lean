/-!
# Binary floating point

The 64-bit numbers of IEEE 754 as a sign and a rank among the magnitudes: rank `0` is zero, each
next rank is the next representable magnitude, then comes infinity and, above it, what is not a
number. Rounding therefore never has to carry by hand, and the total order is that of the ranks.

* `Binary64.ofRatio` rounds a quotient of natural numbers to the nearest number, ties to the even
  rank.
* `Binary64.magnitude?` is the exact value of a finite number, as a multiple of a power of two.
* `Binary64.totalKey` orders all numbers, the two zeros and what is not a number included.
-/

namespace Telemetry

/-- A 64-bit floating point number. -/
structure Binary64 where
  /-- The sign bit. -/
  negative : Bool
  /-- The place of the magnitude among all magnitudes. -/
  rank : Nat
  deriving DecidableEq, Repr

namespace Binary64

/-- The rank of infinity: one past the greatest finite magnitude. -/
def infiniteRank : Nat := 0x7FF * Nat.pow 2 52

/-- Positive zero. -/
def zero : Binary64 := ⟨false, 0⟩

/-- The number one. -/
def one : Binary64 := ⟨false, 0x3FF * Nat.pow 2 52⟩

/-- Infinity with the given sign. -/
def infinity (negative : Bool) : Binary64 := ⟨negative, infiniteRank⟩

/-- The quiet value that is not a number, with the given sign. -/
def notANumber (negative : Bool) : Binary64 := ⟨negative, infiniteRank + Nat.pow 2 51⟩

/-- The value is not a number. -/
def isNaN (x : Binary64) : Bool := infiniteRank < x.rank

/-- The value is an infinity. -/
def isInfinite (x : Binary64) : Bool := x.rank == infiniteRank

/-- The value is zero of either sign. -/
def isZero (x : Binary64) : Bool := x.rank == 0

/-- The two numbers `m` and `q` with which a finite rank stands for `m · 2 ^ (q - 1074)`. -/
def parts (rank : Nat) : Nat × Nat :=
  if rank < Nat.pow 2 52 then (rank, 0)
  else (Nat.pow 2 52 + rank % Nat.pow 2 52, rank / Nat.pow 2 52 - 1)

/-- The magnitude of a finite number as a quotient of natural numbers. -/
def magnitude? (x : Binary64) : Option (Nat × Nat) :=
  if x.rank < infiniteRank then
    let (m, q) := parts x.rank
    some (m * Nat.pow 2 q, Nat.pow 2 1074)
  else none

/-- The quotient rounded to the nearest natural number, a tie to the even one. -/
def divideToEven (num den : Nat) : Nat :=
  let q := num / den
  let r := num % den
  if 2 * r < den then q
  else if den < 2 * r then q + 1
  else q + q % 2

/-- The exponent `q` of the grid `2 ^ (q - 1074)` on which the quotient rounds: the finest grid on
which it has at most 53 bits. -/
def gridExponent (num den : Nat) : Nat :=
  let guess := num.log2 + 1074 - den.log2 - 53
  if num * Nat.pow 2 1074 < den * Nat.pow 2 (guess + 53) then guess else guess + 1

/-- The quotient of two natural numbers, rounded to the nearest number, a tie to the even rank; what
rounds to more than the greatest finite number becomes infinity. -/
def ofRatio (negative : Bool) (num den : Nat) : Binary64 :=
  if num = 0 then ⟨negative, 0⟩
  else
    let q := gridExponent num den
    let m := divideToEven (num * Nat.pow 2 1074) (den * Nat.pow 2 q)
    ⟨negative, min (q * Nat.pow 2 52 + m) infiniteRank⟩

/-- The number nearest to a natural number. -/
def ofNat (n : Nat) : Binary64 := ofRatio false n 1

/-- The number nearest to an integer. -/
def ofInt (i : Int) : Binary64 := ofRatio (i < 0) i.natAbs 1

/-- The place of a number in the total order: negative before positive, with zero of either sign
between them, and what is not a number at the two ends. -/
def totalKey (x : Binary64) : Int :=
  if x.negative then -(x.rank : Int) - 1 else x.rank

/-- The total order of the numbers. -/
def totalLE (x y : Binary64) : Bool := x.totalKey ≤ y.totalKey

/-- The integer nearest to the number, a half away from zero, kept within `low` and `high`; zero
for what is not a number. -/
def roundWithin (low high : Int) (x : Binary64) : Int :=
  if x.isNaN then 0
  else match x.magnitude? with
    | none => if x.negative then low else high
    | some (num, den) =>
      let n : Int := ((2 * num + den) / (2 * den) : Nat)
      max low (min high (if x.negative then -n else n))

end Binary64

end Telemetry
