/-!
# Punycode

Domain labels with letters outside of ASCII, written in ASCII. The basic characters come first;
behind them stands, in a base of thirty-six digits, where each other character is to be put in,
in the order of the characters. The length of those numbers adapts to the text.
-/

namespace Telemetry.Punycode

/-- The digit for a value below thirty-six. -/
def digit (n : Nat) : Char := if n < 26 then Char.ofNat (97 + n) else Char.ofNat (22 + n)

/-- The threshold at a digit place: a digit below it is the last of its number. -/
def threshold (bias place : Nat) : Nat := max 1 (min 26 (place - bias))

theorem one_le_threshold (bias place : Nat) : 1 ≤ threshold bias place := by
  unfold threshold
  omega

/-- A number in digits of variable weight, from a digit place on. -/
def digits (bias place n : Nat) : List Char :=
  let t := threshold bias place
  if n < t then [digit n]
  else digit (t + (n - t) % (36 - t)) :: digits bias (place + 36) ((n - t) / (36 - t))
termination_by n
decreasing_by
  have := one_le_threshold bias place
  have : (n - threshold bias place) / (36 - threshold bias place) ≤ n - threshold bias place :=
    Nat.div_le_self _ _
  omega

/-- The bias for a distance that was scaled down; `sum` is that of the steps so far. -/
def settle (distance sum : Nat) : Nat :=
  if 455 < distance then settle (distance / 35) (sum + 36)
  else sum + 36 * distance / (distance + 38)
termination_by distance
decreasing_by exact Nat.div_lt_self (by omega) (by omega)

/-- The bias after a distance was written, with so many characters in place. -/
def adapt (distance count : Nat) (first : Bool) : Nat :=
  let scaled := if first then distance / 700 else distance / 2
  settle (scaled + scaled / count) 0

/-- A label in the middle of being written. -/
structure Progress where
  written : List Char
  /-- How far the place of the next character is from that of the last one. -/
  distance : Nat
  bias : Nat
  /-- The number of characters in place. -/
  count : Nat

/-- Passes over one character of the label; the one with the code that is being put in is
written. -/
def pass (basic code : Nat) (p : Progress) (c : Char) : Progress :=
  if c.toNat < code then { p with distance := p.distance + 1 }
  else if c.toNat = code then
    { written := p.written ++ digits p.bias 36 p.distance
      distance := 0
      bias := adapt p.distance (p.count + 1) (p.count = basic)
      count := p.count + 1 }
  else p

/-- Puts in the characters with the given codes, which ascend. -/
def insertAll (label : List Char) (basic : Nat) : List Nat → Nat → Progress → Progress
  | [], _, p => p
  | code :: codes, passed, p =>
    let p := { p with distance := p.distance + (code - passed) * (p.count + 1) }
    let p := label.foldl (pass basic code) p
    insertAll label basic codes (code + 1) { p with distance := p.distance + 1 }

/-- A label in ASCII, without the mark that says so. -/
def encode (label : List Char) : List Char :=
  let basic := label.filter fun c => c.toNat < 0x80
  let others := ((label.filter fun c => 0x80 ≤ c.toNat).map Char.toNat).eraseDups.mergeSort
    fun a b => a ≤ b
  let p := insertAll label basic.length others 0x80 ⟨[], 0, 72, basic.length⟩
  basic ++ (if basic.isEmpty then [] else ['-']) ++ p.written

end Telemetry.Punycode
