import Telemetry.Number.Decimal
import Telemetry.Text.Search
import Telemetry.Time.Timestamp
import Telemetry.Toml.Basic

/-!
# Strings, numbers and dates in TOML

The values of a TOML document that hold no other values, each read from the front of a text.
-/

namespace Telemetry.Toml

/-- A step of reading: what was read, and the text behind it. -/
abbrev Scan (α : Type) := List Char → Option (α × List Char)

/-- A space or a tab. -/
def isSpace (c : Char) : Bool := c = ' ' || c = '\t'

/-- The text behind the spaces and tabs at its head. -/
def skipSpace (cs : List Char) : List Char := cs.dropWhile isSpace

/-- A line end at the head of a text. -/
def newline? : List Char → Option (List Char)
  | '\n' :: rest => some rest
  | '\r' :: '\n' :: rest => some rest
  | _ => none

/-- A character that may stand in a comment, and in a string unless it has a meaning there. -/
def isPlain (c : Char) : Bool :=
  c = '\t' || (0x20 ≤ c.toNat && c.toNat ≠ 0x7F)

/-! ## Strings -/

/-- The value of exactly `n` digits in base sixteen. -/
def hexNumber (n : Nat) : Scan Nat := fun cs =>
  let digits := cs.take n
  let hex (c : Char) : Option Nat :=
    if Decimal.isDigit c then some (c.toNat - 48)
    else if 'a' ≤ c && c ≤ 'f' then some (c.toNat - 87)
    else if 'A' ≤ c && c ≤ 'F' then some (c.toNat - 55)
    else none
  if digits.length < n then none
  else (digits.foldl (fun acc c => do return (← acc) * 16 + (← hex c)) (some 0)).map
    fun v => (v, cs.drop n)

/-- The character with a number, if there is one. -/
def charOf? (n : Nat) : Option Char :=
  if n < 0xD800 || (0xDFFF < n && n < 0x110000) then some (Char.ofNat n) else none

/-- The character that an escape stands for, behind its backslash. -/
def escape : Scan Char
  | 'b' :: rest => some (Char.ofNat 8, rest)
  | 't' :: rest => some ('\t', rest)
  | 'n' :: rest => some ('\n', rest)
  | 'f' :: rest => some (Char.ofNat 12, rest)
  | 'r' :: rest => some ('\r', rest)
  | '"' :: rest => some ('"', rest)
  | '\\' :: rest => some ('\\', rest)
  | 'u' :: rest => do
    let (n, rest) ← hexNumber 4 rest
    return (← charOf? n, rest)
  | 'U' :: rest => do
    let (n, rest) ← hexNumber 8 rest
    return (← charOf? n, rest)
  | _ => none

/-- Reads a string in double quotes, up to and with the closing one. -/
def basicString : Nat → List Char → Scan (List Char)
  | 0, _, _ => none
  | _ + 1, _, [] => none
  | fuel + 1, acc, c :: cs =>
    if c = '"' then some (acc.reverse, cs)
    else if c = '\\' then
      match escape cs with
      | some (c, rest) => basicString fuel (c :: acc) rest
      | none => none
    else if isPlain c then basicString fuel (c :: acc) cs
    else none

/-- Reads a string in single quotes, up to and with the closing one. -/
def literalString : Scan (List Char) := fun cs =>
  let content := cs.takeWhile fun c => isPlain c && c ≠ '\''
  match cs.drop content.length with
  | '\'' :: rest => some (content, rest)
  | _ => none

/-- The text behind the blanks and line ends at its head. -/
def skipLines : Nat → List Char → List Char
  | 0, cs => cs
  | fuel + 1, cs =>
    match newline? (skipSpace cs) with
    | some rest => skipLines fuel rest
    | none => skipSpace cs

/-- The quotes at the head of a text, five at most: with three or more they close a string, and
those beyond three belong to it. -/
def quotes (quote : Char) (cs : List Char) : Nat :=
  ((cs.take 5).takeWhile (· = quote)).length

/-- Reads a string of several lines, up to and with its closing quotes. Between double quotes a
backslash begins an escape, or joins a line to the next text. -/
def longString (quote : Char) : Nat → List Char → Scan (List Char)
  | 0, _, _ => none
  | _ + 1, _, [] => none
  | fuel + 1, acc, c :: cs =>
    if c = quote then
      let n := quotes quote (c :: cs)
      let rest := (c :: cs).drop n
      if n ≥ 3 then some ((List.replicate (n - 3) quote ++ acc).reverse, rest)
      else longString quote fuel (List.replicate n quote ++ acc) rest
    else if c = '\\' && quote = '"' then
      match newline? (skipSpace cs) with
      | some rest => longString quote fuel acc (skipLines rest.length rest)
      | none =>
        match escape cs with
        | some (c, rest) => longString quote fuel (c :: acc) rest
        | none => none
    else
      match newline? (c :: cs) with
      | some rest => longString quote fuel ('\n' :: acc) rest
      | none => if isPlain c then longString quote fuel (c :: acc) cs else none

/-- The text behind a line end at its head. -/
def dropNewline (cs : List Char) : List Char := (newline? cs).getD cs

/-- Reads a string on one line. -/
def shortString : Scan (List Char)
  | '"' :: cs => basicString (cs.length + 1) [] cs
  | '\'' :: cs => literalString cs
  | _ => none

/-- Reads a string of any of the four forms. -/
def anyString : Scan (List Char)
  | '"' :: '"' :: '"' :: cs => longString '"' (cs.length + 1) [] (dropNewline cs)
  | '\'' :: '\'' :: '\'' :: cs => longString '\'' (cs.length + 1) [] (dropNewline cs)
  | cs => shortString cs

/-! ## Numbers -/

/-- Digits, with single underscores between neighbours left out. -/
def digitsWith (isDigit : Char → Bool) : List Char → List Char × List Char
  | c :: '_' :: d :: cs =>
    if isDigit c then
      if isDigit d then
        let (more, rest) := digitsWith isDigit (d :: cs)
        (c :: more, rest)
      else ([c], '_' :: d :: cs)
    else ([], c :: '_' :: d :: cs)
  | c :: cs =>
    if isDigit c then
      let (more, rest) := digitsWith isDigit cs
      (c :: more, rest)
    else ([], c :: cs)
  | [] => ([], [])

/-- At least one decimal digit. -/
def decimals : Scan (List Char) := fun cs =>
  let (digits, rest) := digitsWith Decimal.isDigit cs
  if digits.isEmpty then none else some (digits, rest)

/-- A whole number without a sign; a zero stands alone. -/
def wholeDigits : Scan (List Char)
  | '0' :: cs => some (['0'], cs)
  | cs => decimals cs

/-- An optional sign. -/
def sign : List Char → Bool × List Char
  | '+' :: cs => (false, cs)
  | '-' :: cs => (true, cs)
  | cs => (false, cs)

/-- The exponent of a number: its letter, an optional sign and digits. -/
def exponent : Scan Int
  | e :: cs =>
    if e = 'e' || e = 'E' then
      let (negative, cs) := sign cs
      (decimals cs).map fun (digits, rest) =>
        let n : Int := Decimal.value digits
        (if negative then -n else n, rest)
    else none
  | [] => none

/-- A number in one of the bases that have a letter. -/
def basedInteger (base : Nat) (isDigit : Char → Bool) : Scan Toml := fun cs =>
  let (digits, rest) := digitsWith isDigit cs
  let value := digits.foldl (fun n c =>
    n * base + (if Decimal.isDigit c then c.toNat - 48 else c.toLower.toNat - 87)) 0
  if digits.isEmpty || value ≥ Nat.pow 2 63 then none else some (.integer value, rest)

/-- A digit in base sixteen. -/
def isHexDigit (c : Char) : Bool :=
  Decimal.isDigit c || ('a' ≤ c && c ≤ 'f') || ('A' ≤ c && c ≤ 'F')

/-- A whole number, or a number with a fraction or an exponent. A number that is too great for a
floating point number is refused. -/
def decimalNumber : Scan Toml := fun cs => do
  let (negative, cs) := sign cs
  let (whole, cs) ← wholeDigits cs
  let (fraction, afterFraction) ← match cs with
    | '.' :: rest => decimals rest
    | _ => some ([], cs)
  let float (scale : Int) (rest : List Char) : Option (Toml × List Char) :=
    let x := Decimal.Numeral.round negative ⟨whole ++ fraction, scale - fraction.length⟩
    if x = .infinity false then none else some (.float x, rest)
  match exponent afterFraction with
  | some (scale, rest) => float scale rest
  | none =>
    match afterFraction with
    | 'e' :: _ => none
    | 'E' :: _ => none
    | _ =>
      if !fraction.isEmpty then float 0 afterFraction
      else
        let n : Int := Decimal.value whole
        let i := if negative then -n else n
        if -(Nat.pow 2 63 : Int) ≤ i && i < (Nat.pow 2 63 : Int) then
          some (.integer i, afterFraction)
        else none

/-- A value that is infinite or no number, behind its sign. -/
def specialNumber (negative : Bool) : Scan Toml
  | 'i' :: 'n' :: 'f' :: rest => some (.float (.infinity negative), rest)
  | 'n' :: 'a' :: 'n' :: rest => some (.float (.notANumber negative), rest)
  | _ => none

/-- A number of any form. -/
def number : Scan Toml
  | '0' :: 'x' :: cs => basedInteger 16 isHexDigit cs
  | '0' :: 'o' :: cs => basedInteger 8 (fun c => '0' ≤ c && c ≤ '7') cs
  | '0' :: 'b' :: cs => basedInteger 2 (fun c => c = '0' || c = '1') cs
  | cs =>
    let (negative, rest) := sign cs
    specialNumber negative rest <|> decimalNumber cs

/-! ## Dates and times -/

/-- A number of exactly `n` digits within bounds. -/
def fixed (n low high : Nat) : Scan Nat := fun cs =>
  match Timestamp.number n n cs with
  | some (v, rest) => if low ≤ v && v ≤ high then some (v, rest) else none
  | none => none

/-- A date in its normal spelling. -/
def date : Scan (List Char) := fun cs => do
  let (year, cs) ← fixed 4 0 9999 cs
  let ((), cs) ← Timestamp.literal '-' cs
  let (month, cs) ← fixed 2 1 12 cs
  let ((), cs) ← Timestamp.literal '-' cs
  let (day, cs) ← fixed 2 1 31 cs
  if (Date.mk year month day).isValid then
    some (Timestamp.padded 4 year ++ '-' :: Timestamp.padded 2 month ++
      '-' :: Timestamp.padded 2 day, cs)
  else none

/-- A fraction of a second in its normal spelling: nine digits at most, none of them needless. -/
def secondFraction : Scan (List Char)
  | '.' :: cs =>
    let digits := cs.takeWhile Decimal.isDigit
    let kept := ((digits.take 9).reverse.dropWhile (· = '0')).reverse
    if digits.isEmpty then none
    else some (if kept.isEmpty then [] else '.' :: kept, cs.drop digits.length)
  | cs => some ([], cs)

/-- A time of day in its normal spelling. -/
def time : Scan (List Char) := fun cs => do
  let (hour, cs) ← fixed 2 0 23 cs
  let ((), cs) ← Timestamp.literal ':' cs
  let (minute, cs) ← fixed 2 0 59 cs
  let ((), cs) ← Timestamp.literal ':' cs
  let (second, cs) ← fixed 2 0 60 cs
  let (fraction, cs) ← secondFraction cs
  return (Timestamp.padded 2 hour ++ ':' :: Timestamp.padded 2 minute ++
    ':' :: Timestamp.padded 2 second ++ fraction, cs)

/-- An offset in its normal spelling. -/
def offset : Scan (List Char)
  | 'Z' :: cs => some (['Z'], cs)
  | 'z' :: cs => some (['Z'], cs)
  | c :: cs =>
    if c = '+' || c = '-' then do
      let (hours, cs) ← fixed 2 0 23 cs
      let ((), cs) ← Timestamp.literal ':' cs
      let (minutes, cs) ← fixed 2 0 59 cs
      return (c :: Timestamp.padded 2 hours ++ ':' :: Timestamp.padded 2 minutes, cs)
    else none
  | [] => none

/-- A date, a date with a time, or a time. -/
def anyDatetime : Scan Toml := fun cs =>
  match date cs with
  | some (day, rest) =>
    let withTime : Option (Toml × List Char) :=
      match rest with
      | c :: more =>
        if c = 'T' || c = 't' || c = ' ' then do
          let (clock, rest) ← time more
          let (zone, rest) := (offset rest).getD ([], rest)
          return (.datetime (String.ofList (day ++ 'T' :: clock ++ zone)), rest)
        else none
      | [] => none
    some (withTime.getD (.datetime (String.ofList day), rest))
  | none => (time cs).map fun (clock, rest) => (.datetime (String.ofList clock), rest)

end Telemetry.Toml
