import Telemetry.Number.Decimal
import Telemetry.Text.Blank
import Telemetry.Text.Search

/-!
# Durations

Spans of time in whole nanoseconds, with the three texts they have: the short form of messages
(`1.5s`, `250ms`), the spelled-out form of the summary (`1h 30m`), and the form in which a
definition writes them (`90 sec`, `1.5h`, or a bare number of seconds).

Reading a written duration is a scan with byte offsets, because its messages name them.
-/

namespace Telemetry

/-- A span of time. -/
structure Duration where
  nanos : Nat
  deriving DecidableEq, Repr

namespace Duration

/-- No time at all. -/
def zero : Duration := ⟨0⟩

/-- So many seconds. -/
def ofSeconds (n : Nat) : Duration := ⟨n * 1000000000⟩

/-- So many milliseconds. -/
def ofMillis (n : Nat) : Duration := ⟨n * 1000000⟩

/-- The least whole number of milliseconds that covers the span: a timer fires on whole
milliseconds, never early. -/
def ceilMillis (d : Duration) : Nat :=
  d.nanos / 1000000 + if d.nanos % 1000000 = 0 then 0 else 1

/-- The span in seconds, as the sum of the rounded whole seconds and the rounded rest. -/
def seconds (d : Duration) : Binary64 :=
  let whole := Binary64.ofNat (d.nanos / 1000000000)
  let rest := Binary64.ofRatio false (d.nanos % 1000000000) 1000000000
  match whole.magnitude?, rest.magnitude? with
  | some (a, b), some (c, e) => Binary64.ofRatio false (a * e + c * b) (b * e)
  | _, _ => whole

/-! ## The short form -/

/-- A whole number, and `rest` out of `unit` behind a point, without needless zeros. -/
def pointed (whole rest unit : Nat) : String :=
  let places := (Text.decimalDigits unit).length - 1
  let digits := Text.decimalDigits rest
  let padded := List.replicate (places - digits.length) '0' ++ digits
  let fraction := (padded.reverse.dropWhile (· = '0')).reverse
  Text.ofNat whole ++ (if fraction.isEmpty then "" else "." ++ String.ofList fraction)

/-- The span in its greatest unit, as messages show it. -/
def text (d : Duration) : String :=
  let n := d.nanos
  if n ≥ 1000000000 then pointed (n / 1000000000) (n % 1000000000) 1000000000 ++ "s"
  else if n ≥ 1000000 then pointed (n / 1000000) (n % 1000000) 1000000 ++ "ms"
  else if n ≥ 1000 then pointed (n / 1000) (n % 1000) 1000 ++ "µs"
  else Text.ofNat n ++ "ns"

/-! ## The spelled-out form -/

/-- The seconds of a mean Gregorian month. -/
def secondsPerMonth : Nat := 2630016

/-- The seconds of a Julian year. -/
def secondsPerYear : Nat := 31557600

/-- A part of the spelled-out form; a part of zero is left out. -/
def spelledPart (n : Nat) (unit : String) (plural : Bool) : List String :=
  if n = 0 then []
  else [Text.ofNat n ++ unit ++ (if plural && n > 1 then "s" else "")]

/-- The span in years, months, days, hours, minutes and seconds. -/
def spelled (d : Duration) : String :=
  let total := d.nanos / 1000000000
  let inYear := total % secondsPerYear
  let inMonth := inYear % secondsPerMonth
  let inDay := inMonth % 86400
  let rest := d.nanos % 1000000000
  if d.nanos = 0 then "0s"
  else Text.join " " <|
    spelledPart (total / secondsPerYear) "year" true ++
    spelledPart (inYear / secondsPerMonth) "month" true ++
    spelledPart (inMonth / 86400) "day" true ++
    spelledPart (inDay / 3600) "h" false ++
    spelledPart (inDay % 3600 / 60) "m" false ++
    spelledPart (inDay % 60) "s" false ++
    spelledPart (rest / 1000000) "ms" false ++
    spelledPart (rest / 1000 % 1000) "us" false ++
    spelledPart (rest % 1000) "ns" false

/-! ## The written form -/

/-- Why a written duration cannot be read. Offsets count bytes. -/
inductive Fault where
  /-- No number where one has to begin. -/
  | expectedNumber (offset : Nat)
  /-- A character that belongs to neither a number nor a unit. -/
  | invalidCharacter (offset : Nat)
  /-- A number without a unit. -/
  | missingUnit (value : Nat)
  /-- A word that names no unit. -/
  | unknownUnit (unit : String)
  /-- The span does not fit, or is no whole number of the smallest part of its unit. -/
  | unrepresentable
  /-- Nothing is written. -/
  | empty
  deriving DecidableEq, Repr

/-- What a message says of a fault. -/
def Fault.message : Fault → String
  | .expectedNumber offset => "expected number at " ++ Text.ofNat offset
  | .invalidCharacter offset => "invalid character at " ++ Text.ofNat offset
  | .missingUnit value =>
    "time unit needed, for example " ++ Text.ofNat value ++ "sec or " ++ Text.ofNat value ++ "ms"
  | .unknownUnit unit =>
    "unknown time unit " ++ Text.quote unit ++ ", supported units: ns, us/µs, ms, sec, min, " ++
      "hours, days, weeks, months, years (and few variations)"
  | .unrepresentable =>
    "number is too large or cannot be represented without a lack of precision " ++
      "(values below 1ns are not supported)"
  | .empty => "value was empty"

/-- A unit of time: so many of its smallest parts, which are nanoseconds or, for the long units,
whole seconds. -/
structure TimeUnit where
  parts : Nat
  inSeconds : Bool
  deriving DecidableEq, Repr

/-- The unit that a word names. -/
def unit? (word : String) : Option TimeUnit :=
  if ["nanos", "nsec", "ns"].contains word then some ⟨1, false⟩
  else if ["usec", "us", "µs"].contains word then some ⟨1000, false⟩
  else if ["millis", "msec", "ms"].contains word then some ⟨1000000, false⟩
  else if ["seconds", "second", "secs", "sec", "s"].contains word then some ⟨1, true⟩
  else if ["minutes", "minute", "min", "mins", "m"].contains word then some ⟨60, true⟩
  else if ["hours", "hour", "hr", "hrs", "h"].contains word then some ⟨3600, true⟩
  else if ["days", "day", "d"].contains word then some ⟨86400, true⟩
  else if ["weeks", "week", "wk", "wks", "w"].contains word then some ⟨604800, true⟩
  else if ["months", "month", "M"].contains word then some ⟨secondsPerMonth, true⟩
  else if ["years", "year", "yr", "yrs", "y"].contains word then some ⟨secondsPerYear, true⟩
  else none

/-- A fraction behind a point: numerator and denominator, the denominator a power of ten. -/
structure Fraction where
  numerator : Nat
  denominator : Nat

/-- Counts fit in 64 bits. -/
def fits (n : Nat) : Except Fault Nat :=
  if n < Nat.pow 2 64 then .ok n else .error .unrepresentable

/-- Adds seconds and nanoseconds to a span whose seconds fit in 64 bits. -/
def plus (d : Duration) (seconds nanos : Nat) : Except Fault Duration := do
  let below ← fits (d.nanos % 1000000000 + nanos)
  let whole ← fits (d.nanos / 1000000000 + seconds)
  let carried ← fits (whole + below / 1000000000)
  return ⟨carried * 1000000000 + below % 1000000000⟩

/-- The whole number of parts that a fraction of a unit is. -/
def fractionOf (f : Fraction) (parts : Nat) : Except Fault Nat := do
  let product ← fits (f.numerator * parts)
  if product % f.denominator = 0 then return product / f.denominator
  else throw .unrepresentable

/-- Adds `n` and a fraction of a unit to a span. A fraction of the units up to a minute is counted
in nanoseconds, one of the longer units in seconds, and one of a nanosecond is refused. -/
def plusUnit (d : Duration) (n : Nat) (fraction : Option Fraction) (word : String) :
    Except Fault Duration := do
  match unit? word with
  | none => throw (if word.isEmpty then .missingUnit n else .unknownUnit word)
  | some u =>
    let amount ← fits (n * u.parts)
    let d ← if u.inSeconds then d.plus amount 0 else d.plus 0 amount
    match fraction with
    | none => return d
    | some f =>
      if u = ⟨1, false⟩ then throw .unrepresentable
      else if !u.inSeconds then d.plus 0 (← fractionOf f u.parts)
      else if u.parts ≤ 60 then d.plus 0 (← fractionOf f (u.parts * 1000000000))
      else d.plus (← fractionOf f u.parts) 0

/-- A letter that can stand in the name of a unit. -/
def isUnitLetter (c : Char) : Bool :=
  ('a' ≤ c && c ≤ 'z') || ('A' ≤ c && c ≤ 'Z') || c = 'µ'

/-- Where the scan of a written duration is. -/
inductive Phase where
  /-- Before a number; `start` is where the search for it began. -/
  | seek (start : Nat)
  /-- Inside a whole number. -/
  | number (n : Nat)
  /-- Behind the point of a number; `last` is the offset to report. -/
  | fraction (n : Nat) (f : Fraction) (last : Nat)
  /-- Inside the name of a unit, kept in reverse. -/
  | word (n : Nat) (f : Option Fraction) (letters : List Char)

/-- Scans a written duration. `offset` is that of the next character, and `sum` the span so far;
`sum` is missing until the first number with its unit is complete. -/
def scan (offset : Nat) (phase : Phase) (sum : Duration) : List Char → Except Fault Duration
  | [] =>
    match phase with
    | .seek _ => .ok sum
    | .number n => sum.plusUnit n none ""
    | .fraction n f last =>
      if f.denominator = 1 then .error (.invalidCharacter last) else sum.plusUnit n (some f) ""
    | .word n f letters => sum.plusUnit n f (String.ofList letters.reverse)
  | c :: rest =>
    let after := offset + c.utf8Size
    match phase with
    | .seek start =>
      match Decimal.digit? c with
      | some d => scan after (.number d) sum rest
      | none =>
        if Text.isBlank c then scan after (.seek start) sum rest
        else .error (.expectedNumber start)
    | .number n =>
      match Decimal.digit? c with
      | some d => do scan after (.number (← fits (n * 10 + d))) sum rest
      | none =>
        if Text.isBlank c then scan after (.number n) sum rest
        else if isUnitLetter c then scan after (.word n none [c]) sum rest
        else if c = '.' then scan after (.fraction n ⟨0, 1⟩ offset) sum rest
        else .error (.invalidCharacter offset)
    | .fraction n f last =>
      match Decimal.digit? c with
      | some d => do
        let denominator ← fits (f.denominator * 10)
        let numerator ← fits (f.numerator * 10 + d)
        scan after (.fraction n ⟨numerator, denominator⟩ after) sum rest
      | none =>
        if Text.isBlank c then scan after (.fraction n f after) sum rest
        else if isUnitLetter c then
          if f.denominator = 1 then .error (.invalidCharacter last)
          else scan after (.word n (some f) [c]) sum rest
        else .error (.invalidCharacter last)
    | .word n f letters =>
      match Decimal.digit? c with
      | some d => do
        scan after (.number d) (← sum.plusUnit n f (String.ofList letters.reverse)) rest
      | none =>
        if Text.isBlank c then do
          scan after (.seek after) (← sum.plusUnit n f (String.ofList letters.reverse)) rest
        else if isUnitLetter c then scan after (.word n f (c :: letters)) sum rest
        else .error (.invalidCharacter offset)

/-- Reads a span written with units. -/
def readWithUnits (s : String) : Except Fault Duration :=
  if s.toList.all Text.isBlank then .error .empty else scan 0 (.seek 0) zero s.toList

/-- Reads a span as a definition writes it: a bare number is seconds. -/
def read (s : String) : Except Fault Duration :=
  match Decimal.readUnsigned? 64 s.toList with
  | some n => .ok (ofSeconds n)
  | none => readWithUnits s

end Duration

end Telemetry
