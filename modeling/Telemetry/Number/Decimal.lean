import Telemetry.Number.Binary64
import Telemetry.Text.Quoted

/-!
# Decimal text of numbers

Reading and writing numbers in decimal. A number is written with the fewest digits that read back
as the same number, always positionally; of two such texts the nearer one, and in an exact tie the
greater one. Reading accepts digits with an optional point and exponent, the names of the infinite
and undefined values in any letter case, and nothing else.
-/

namespace Telemetry

namespace Decimal

/-- The value of a decimal digit. -/
def digit? (c : Char) : Option Nat :=
  if '0' ≤ c && c ≤ '9' then some (c.toNat - 48) else none

/-- A decimal digit of ASCII. -/
def isDigit (c : Char) : Bool := '0' ≤ c && c ≤ '9'

/-- The natural number that a list of digits stands for. -/
def value (digits : List Char) : Nat :=
  digits.foldl (fun n c => n * 10 + (c.toNat - 48)) 0

/-- Reads an unsigned count below `2 ^ bits`: an optional plus sign, then digits only. -/
def readUnsigned? (bits : Nat) (cs : List Char) : Option Nat :=
  let digits := match cs with
    | '+' :: rest => rest
    | _ => cs
  if digits.isEmpty || !digits.all isDigit then none
  else if value digits < Nat.pow 2 bits then some (value digits) else none

/-- Reads a signed integer of `bits` bits: an optional sign, then digits only. -/
def readSigned? (bits : Nat) (cs : List Char) : Option Int :=
  let (negative, digits) := match cs with
    | '+' :: rest => (false, rest)
    | '-' :: rest => (true, rest)
    | _ => (false, cs)
  if digits.isEmpty || !digits.all isDigit then none
  else
    let n : Int := value digits
    let i := if negative then -n else n
    if -(Nat.pow 2 (bits - 1) : Int) ≤ i && i < (Nat.pow 2 (bits - 1) : Int) then some i else none

/-- An unsigned decimal numeral: its digits, with the point left out, and the power of ten to
scale them by. -/
structure Numeral where
  digits : List Char
  exponent : Int

/-- Reads the exponent part of a numeral, which may be missing. -/
def readExponent? : List Char → Option Int
  | [] => some 0
  | e :: cs =>
    if e = 'e' || e = 'E' then
      let (negative, digits) := match cs with
        | '+' :: rest => (false, rest)
        | '-' :: rest => (true, rest)
        | _ => (false, cs)
      if digits.isEmpty || !digits.all isDigit then none
      else some (if negative then -(value digits : Int) else value digits)
    else none

/-- Reads digits with an optional point, at least one digit on one side of it, and an optional
exponent. -/
def readNumeral? (cs : List Char) : Option Numeral :=
  let whole := cs.takeWhile isDigit
  let (fraction, rest) := match cs.dropWhile isDigit with
    | '.' :: more => (more.takeWhile isDigit, more.dropWhile isDigit)
    | more => ([], more)
  if whole.isEmpty && fraction.isEmpty then none
  else (readExponent? rest).map fun e => ⟨whole ++ fraction, e - fraction.length⟩

/-- The number nearest to a numeral. Numerals far outside the range of the numbers are decided by
the place of their first digit, so that an enormous exponent costs nothing. -/
def Numeral.round (negative : Bool) (d : Numeral) : Binary64 :=
  let n := value d.digits
  if n = 0 then ⟨negative, 0⟩
  else
    let top := d.exponent + (Text.decimalDigits n).length
    if top > 310 then .infinity negative
    else if top < -330 then ⟨negative, 0⟩
    else if d.exponent ≥ 0 then .ofRatio negative (n * Nat.pow 10 d.exponent.toNat) 1
    else .ofRatio negative n (Nat.pow 10 (-d.exponent).toNat)

/-- Reads an unsigned number. -/
def readMagnitude? (negative : Bool) (cs : List Char) : Option Binary64 :=
  let name := String.ofList (cs.map Char.toLower)
  if name = "inf" || name = "infinity" then some (.infinity negative)
  else if name = "nan" then some (.notANumber negative)
  else (readNumeral? cs).map (·.round negative)

/-- Reads a number: an optional sign, then a numeral or the name of a special value. -/
def readChars? : List Char → Option Binary64
  | '+' :: cs => readMagnitude? false cs
  | '-' :: cs => readMagnitude? true cs
  | cs => readMagnitude? false cs

/-- Reads a number. -/
def read? (s : String) : Option Binary64 := readChars? s.toList

/-! ## The fewest digits that read back -/

/-- The numbers between `low / den` and `high / den` round to the same number as `mid / den`;
the two ends do so only when `closed`. -/
structure Interval where
  low : Nat
  mid : Nat
  high : Nat
  den : Nat
  closed : Bool

/-- The interval of a finite rank. Below a power of two the gap to the neighbour is half as wide. -/
def interval (rank : Nat) : Interval :=
  let (m, q) := Binary64.parts rank
  let narrow := m = Nat.pow 2 52 && q ≠ 0
  let unit := Nat.pow 2 q
  { low := 4 * m * unit - (if narrow then unit else 2 * unit)
    mid := 4 * m * unit
    high := 4 * m * unit + 2 * unit
    den := 4 * Nat.pow 2 1074
    closed := m % 2 = 0 }

/-- `n · num / den` lies in the interval. -/
def Interval.holds (i : Interval) (n num den : Nat) : Bool :=
  let x := n * num * i.den
  if i.closed then i.low * den ≤ x && x ≤ i.high * den else i.low * den < x && x < i.high * den

/-- The multiple of `num / den` nearest to the middle of the interval, if a multiple next to the
middle lies inside. In a tie the greater multiple is taken. -/
def Interval.nearest? (i : Interval) (num den : Nat) : Option Nat :=
  let below := i.mid * den / (i.den * num)
  let gap := i.mid * den - below * i.den * num
  match i.holds below num den, i.holds (below + 1) num den with
  | true, true => some (if 2 * gap < i.den * num then below else below + 1)
  | true, false => some below
  | false, true => some (below + 1)
  | false, false => none

/-- The least power of ten above the middle of the interval, counted in digits before the point. -/
def Interval.top (i : Interval) : Int :=
  if i.den ≤ i.mid then (Text.decimalDigits (i.mid / i.den)).length
  else
    let zeros := (Text.decimalDigits (i.den / i.mid)).length
    if i.mid * Nat.pow 10 (zeros - 1) < i.den then 1 - (zeros : Int) else 2 - (zeros : Int)

/-- The first hit with at most `tries` digits, beginning with `digits`: the digits as a number and
the power of ten to scale them by. -/
def Interval.search (i : Interval) (top : Int) (digits : Nat) : Nat → Option (Nat × Int)
  | 0 => none
  | tries + 1 =>
    let scale := top - digits
    let hit := if scale ≥ 0 then i.nearest? (Nat.pow 10 scale.toNat) 1
      else i.nearest? 1 (Nat.pow 10 (-scale).toNat)
    match hit with
    | some n => some (n, scale)
    | none => i.search top (digits + 1) tries

/-- The fewest digits that read back as the finite number of this rank, and the power of ten to
scale them by. Seventeen digits are always enough. -/
def shortest (rank : Nat) : Nat × Int :=
  let i := interval rank
  (i.search i.top 1 17).getD (0, 0)

/-- `n · 10 ^ scale` in positional notation, without needless zeros. -/
def positional (n : Nat) (scale : Int) : List Char :=
  if scale ≥ 0 then Text.decimalDigits n ++ List.replicate scale.toNat '0'
  else
    let digits := Text.decimalDigits n
    let places := (-scale).toNat
    let padded := List.replicate (places + 1 - digits.length) '0' ++ digits
    let whole := padded.take (padded.length - places)
    let fraction := (padded.drop (padded.length - places)).reverse.dropWhile (· = '0')
    if fraction.isEmpty then whole else whole ++ '.' :: fraction.reverse

end Decimal

/-- The decimal text of a number. -/
def Binary64.text (x : Binary64) : String :=
  if x.isNaN then "NaN"
  else
    let sign := if x.negative then "-" else ""
    if x.isInfinite then sign ++ "inf"
    else if x.rank = 0 then sign ++ "0"
    else
      let (n, scale) := Decimal.shortest x.rank
      sign ++ String.ofList (Decimal.positional n scale)

end Telemetry
