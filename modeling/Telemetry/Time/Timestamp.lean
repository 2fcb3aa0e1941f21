import Telemetry.Number.Decimal
import Telemetry.Text.Blank
import Telemetry.Time.Calendar

/-!
# Timestamps

Moments of civil time, as events carry them. A moment is a number of seconds since 1970 with
nanoseconds behind it; inside a leap second, which is shown as second 60, the nanoseconds go on
counting past the end of second 59.

* `Timestamp.text` shows a moment in UTC with milliseconds; what is finer is cut off.
* `Timestamp.read?` accepts the internet form and the forms in which databases print timestamps,
  with or without an offset.
-/

namespace Telemetry

/-- A moment. -/
structure Timestamp where
  /-- The seconds since the beginning of 1970, in UTC. -/
  seconds : Int
  /-- The nanoseconds behind them; from `10 ^ 9` on, those of a leap second. -/
  nanos : Nat
  deriving DecidableEq, Repr

namespace Timestamp

/-- The milliseconds since the beginning of 1970, rounded down. -/
def millis (t : Timestamp) : Int := t.seconds * 1000 + (t.nanos / 1000000 : Nat)

/-- The moment is no later than the other. -/
def le (s t : Timestamp) : Bool :=
  s.seconds < t.seconds || (s.seconds = t.seconds && s.nanos ≤ t.nanos)

/-! ## Showing a moment -/

/-- A number with leading zeros up to a width. -/
def padded (width n : Nat) : List Char :=
  let digits := Text.decimalDigits n
  List.replicate (width - digits.length) '0' ++ digits

/-- A year; one outside of four digits has a sign. -/
def yearText (year : Int) : List Char :=
  if year < 0 then '-' :: padded 4 year.natAbs
  else if year > 9999 then '+' :: padded 4 year.toNat
  else padded 4 year.toNat

/-- A moment in UTC with milliseconds. -/
def textChars (t : Timestamp) : List Char :=
  let date := Date.ofDays (t.seconds / 86400)
  let time := (t.seconds % 86400).toNat
  let leap := t.nanos ≥ 1000000000
  let second := time % 60 + (if leap then 1 else 0)
  let nanos := if leap then t.nanos - 1000000000 else t.nanos
  yearText date.year ++ '-' :: padded 2 date.month ++ '-' :: padded 2 date.day ++
    'T' :: padded 2 (time / 3600) ++ ':' :: padded 2 (time / 60 % 60) ++ ':' :: padded 2 second ++
    '.' :: padded 3 (nanos / 1000000) ++ ['Z']

/-- A moment in UTC with milliseconds. -/
def text (t : Timestamp) : String := String.ofList t.textChars

/-! ## Reading a moment -/

/-- A step of reading: what was read, and the text behind it. -/
abbrev Scan (α : Type) := List Char → Option (α × List Char)

/-- At least `least` and at most `most` digits. -/
def number (least most : Nat) : Scan Nat := fun cs =>
  let digits := (cs.take most).takeWhile Decimal.isDigit
  if digits.length < least then none else some (Decimal.value digits, cs.drop digits.length)

/-- The text behind the blanks at its head. -/
def skipBlanks (cs : List Char) : List Char := cs.dropWhile Text.isBlank

/-- One particular character. -/
def literal (c : Char) : Scan Unit
  | d :: cs => if c = d then some ((), cs) else none
  | [] => none

/-- A number of one or two digits, which blanks may precede. -/
def field : Scan Nat := fun cs => number 1 2 (skipBlanks cs)

/-- A year, which blanks may precede: up to four digits, or a sign and any number of them. -/
def year : Scan Int := fun cs =>
  match skipBlanks cs with
  | '-' :: rest => (number 1 rest.length rest).map fun (n, rest) => (-(n : Int), rest)
  | '+' :: rest => (number 1 rest.length rest).map fun (n, rest) => ((n : Int), rest)
  | rest => (number 1 4 rest).map fun (n, rest) => ((n : Int), rest)

/-- A point and a fraction of a second, in nanoseconds; digits beyond them are passed over. Without
a point there is no fraction. -/
def fraction : Scan Nat := fun cs =>
  match cs with
  | '.' :: rest =>
    let digits := rest.takeWhile Decimal.isDigit
    if digits.isEmpty then none
    else
      let kept := digits.take 9
      some (Decimal.value kept * Nat.pow 10 (9 - kept.length), rest.drop digits.length)
  | _ => some (0, cs)

/-- The characters that may stand between the hours and the minutes of an offset. -/
def isOffsetGap (c : Char) : Bool := c = ':' || Text.isBlank c

/-- The sign of an offset: whether it is negative. -/
def offsetSign : Scan Bool
  | '+' :: cs => some (false, cs)
  | '-' :: cs => some (true, cs)
  | '−' :: cs => some (true, cs)
  | _ => none

/-- The minutes of an offset. -/
def offsetMinutes : Scan Nat := fun cs =>
  match number 2 2 cs with
  | some (m, rest) => if m < 60 then some (m, rest) else none
  | none => none

/-- An offset in seconds: a sign, two digits of hours, a gap, two digits of minutes. -/
def offsetWith (gap : Scan Unit) (minutes : Scan Nat) : Scan Int := fun cs => do
  let (negative, cs) ← offsetSign cs
  let (hours, cs) ← number 2 2 cs
  let ((), cs) ← gap cs
  let (minutes, cs) ← minutes cs
  let seconds : Int := hours * 3600 + minutes * 60
  return (if negative then -seconds else seconds, cs)

/-- The letter for an offset of zero. -/
def zulu : Scan Int
  | 'Z' :: cs => some (0, cs)
  | 'z' :: cs => some (0, cs)
  | _ => none

/-- Any characters that may stand between hours and minutes. -/
def looseGap : Scan Unit := fun cs => some ((), cs.dropWhile isOffsetGap)

/-- The offset of the internet form: the letter, or hours and minutes with a colon. -/
def strictOffset : Scan Int := fun cs =>
  zulu cs <|> offsetWith (literal ':') offsetMinutes cs

/-- The offset of a database: blanks, then the letter, or hours with or without minutes. -/
def looseOffset : Scan Int := fun cs =>
  let cs := skipBlanks cs
  zulu cs <|> offsetWith looseGap (fun rest => if rest.isEmpty then some (0, []) else
    offsetMinutes rest) cs

/-- Blanks, then hours and minutes. -/
def fullOffset : Scan Int := fun cs =>
  offsetWith looseGap offsetMinutes (skipBlanks cs)

/-- The years that a moment can lie in. -/
def minYear : Int := -262143

/-- The years that a moment can lie in. -/
def maxYear : Int := 262142

/-- The moment of a civil time with an offset, in seconds, from UTC. Impossible dates and times
and offsets of a day or more have none. -/
def ofCivil? (date : Date) (hour minute second nanos : Nat) (offset : Int) : Option Timestamp :=
  if date.isValid && minYear ≤ date.year && date.year ≤ maxYear && hour < 24 && minute < 60 &&
      second ≤ 60 && offset.natAbs < 86400 then
    let leap := second = 60
    let time : Int := hour * 3600 + minute * 60 + (if leap then 59 else second : Nat)
    let t : Timestamp :=
      ⟨date.toDays * 86400 + time - offset, if leap then 1000000000 + nanos else nanos⟩
    let year := (Date.ofDays (t.seconds / 86400)).year
    if minYear ≤ year && year ≤ maxYear then some t else none
  else none

/-- Reads a whole text as a date, a separator, a time, and an offset. -/
def readWith? (year : Scan Int) (field : Scan Nat) (between : Scan Unit) (offset : Scan Int)
    (cs : List Char) : Option Timestamp := do
  let (year, cs) ← year cs
  let ((), cs) ← literal '-' cs
  let (month, cs) ← field cs
  let ((), cs) ← literal '-' cs
  let (day, cs) ← field cs
  let ((), cs) ← between cs
  let (hour, cs) ← field cs
  let ((), cs) ← literal ':' cs
  let (minute, cs) ← field cs
  let ((), cs) ← literal ':' cs
  let (second, cs) ← field cs
  let (nanos, cs) ← fraction cs
  let (offset, cs) ← offset cs
  if cs.isEmpty then ofCivil? ⟨year, month, day⟩ hour minute second nanos offset else none

/-- The separator of the internet form. -/
def strictSeparator : Scan Unit
  | c :: cs => if c = 'T' || c = 't' || c = ' ' then some ((), cs) else none
  | [] => none

/-- Any blanks, also none. -/
def blanks : Scan Unit := fun cs => some ((), skipBlanks cs)

/-- No offset: the time is in UTC. -/
def noOffset : Scan Int := fun cs => some (0, cs)

/-- Reads a text without blanks around it. The internet form is tried first, then the forms of
databases: with an offset, with a full offset, and without one. -/
def readChars? (cs : List Char) : Option Timestamp :=
  readWith? (fun cs => (number 4 4 cs).map fun (n, rest) => ((n : Int), rest)) (number 2 2)
      strictSeparator strictOffset cs <|>
    readWith? year field blanks looseOffset cs <|>
    readWith? year field blanks (fun cs => fullOffset (skipBlanks cs)) cs <|>
    readWith? year field blanks noOffset cs <|>
    readWith? year field (literal 'T') noOffset cs

/-- Reads a timestamp, whatever blanks stand around it. -/
def read? (s : String) : Option Timestamp := readChars? (Text.trimChars s.toList)

end Timestamp

end Telemetry
