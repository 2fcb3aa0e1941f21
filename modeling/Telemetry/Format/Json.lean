import Telemetry.Number.Decimal
import Telemetry.Text.Search

/-!
# JSON

Reading and writing JSON texts. The reader takes one value from the front of a text and gives back
the rest. Reading is strict or lenient about one thing: an escaped half of a surrogate pair is a
fault of a text that someone asked for, and is passed over in a text that nobody looks at.
-/

namespace Telemetry

/-- A JSON value. A number is kept as it was written. -/
inductive Json where
  | null
  | bool (b : Bool)
  | number (literal : List Char)
  | string (s : String)
  | array (elements : List Json)
  | object (members : List (String × Json))
  deriving Repr

namespace Json

/-- The blanks between tokens. -/
def isSpace (c : Char) : Bool := c = ' ' || c = '\n' || c = '\t' || c = '\r'

/-- The text behind the blanks at its head. -/
def skipSpace (cs : List Char) : List Char := cs.dropWhile isSpace

/-- The value of a digit in base sixteen. -/
def hexValue? (c : Char) : Option Nat :=
  if '0' ≤ c && c ≤ '9' then some (c.toNat - 48)
  else if 'a' ≤ c && c ≤ 'f' then some (c.toNat - 87)
  else if 'A' ≤ c && c ≤ 'F' then some (c.toNat - 55)
  else none

/-- Reads four digits in base sixteen. -/
def readHex4? : List Char → Option (Nat × List Char)
  | a :: b :: c :: d :: rest => do
    let a ← hexValue? a
    let b ← hexValue? b
    let c ← hexValue? c
    let d ← hexValue? d
    return (((a * 16 + b) * 16 + c) * 16 + d, rest)
  | _ => none

/-- The character of a one-letter escape. -/
def escaped? (c : Char) : Option Char :=
  if c = '"' || c = '\\' || c = '/' then some c
  else if c = 'b' then some (Char.ofNat 8)
  else if c = 'f' then some (Char.ofNat 12)
  else if c = 'n' then some '\n'
  else if c = 'r' then some '\r'
  else if c = 't' then some '\t'
  else none

/-- Reads the digits of a numbered escape, and of the second one when the first is the upper half
of a surrogate pair. -/
def readCodePoint? (strict : Bool) (cs : List Char) : Option (Char × List Char) := do
  let (n, rest) ← readHex4? cs
  let lone : Option (Char × List Char) :=
    if strict then none else some (Char.ofNat 0xFFFD, rest)
  if 0xDC00 ≤ n && n ≤ 0xDFFF then lone
  else if 0xD800 ≤ n && n ≤ 0xDBFF then
    match rest with
    | '\\' :: 'u' :: more =>
      match readHex4? more with
      | some (m, rest) =>
        if 0xDC00 ≤ m && m ≤ 0xDFFF then
          some (Char.ofNat (0x10000 + (n - 0xD800) * 0x400 + (m - 0xDC00)), rest)
        else lone
      | none => lone
    | _ => lone
  else some (Char.ofNat n, rest)

/-- Reads the rest of a quoted text, up to and with its closing quote. `acc` holds the characters
so far, the last one first. -/
def readQuoted? (strict : Bool) : Nat → List Char → List Char → Option (List Char × List Char)
  | 0, _, _ => none
  | _ + 1, _, [] => none
  | fuel + 1, acc, c :: cs =>
    if c = '"' then some (acc.reverse, cs)
    else if c = '\\' then
      match cs with
      | 'u' :: rest =>
        match readCodePoint? strict rest with
        | some (c, rest) => readQuoted? strict fuel (c :: acc) rest
        | none => none
      | e :: rest =>
        match escaped? e with
        | some c => readQuoted? strict fuel (c :: acc) rest
        | none => none
      | [] => none
    else if c.toNat < 0x20 then none
    else readQuoted? strict fuel (c :: acc) cs

/-- Reads a quoted text with its quotes. -/
def readText? (strict : Bool) : List Char → Option (List Char × List Char)
  | '"' :: cs => readQuoted? strict (cs.length + 1) [] cs
  | _ => none

/-- Splits off a run of digits that must not be empty. -/
def readDigits? (cs : List Char) : Option (List Char × List Char) :=
  let digits := cs.takeWhile Decimal.isDigit
  if digits.isEmpty then none else some (digits, cs.dropWhile Decimal.isDigit)

/-- Splits off the whole part of a number: no zero stands before another digit. -/
def readWhole? : List Char → Option (List Char × List Char)
  | '0' :: cs => some (['0'], cs)
  | cs => readDigits? cs

/-- Splits off a point and the digits behind it, if there is a point. -/
def readFraction? : List Char → Option (List Char × List Char)
  | '.' :: cs => (readDigits? cs).map fun (digits, rest) => ('.' :: digits, rest)
  | cs => some ([], cs)

/-- Splits off an exponent, if there is one. -/
def readScale? : List Char → Option (List Char × List Char)
  | e :: cs =>
    if e = 'e' || e = 'E' then
      match cs with
      | '+' :: more => (readDigits? more).map fun (digits, rest) => (e :: '+' :: digits, rest)
      | '-' :: more => (readDigits? more).map fun (digits, rest) => (e :: '-' :: digits, rest)
      | more => (readDigits? more).map fun (digits, rest) => (e :: digits, rest)
    else some ([], e :: cs)
  | [] => some ([], [])

/-- Splits off a number. -/
def readNumber? (cs : List Char) : Option (List Char × List Char) := do
  let (sign, cs) := match cs with
    | '-' :: rest => (['-'], rest)
    | _ => ([], cs)
  let (whole, cs) ← readWhole? cs
  let (fraction, cs) ← readFraction? cs
  let (scale, cs) ← readScale? cs
  return (sign ++ whole ++ fraction ++ scale, cs)

mutual

/-- Reads one value from the front of a text. `fuel` bounds the number of steps. -/
def readValue? (strict : Bool) : Nat → List Char → Option (Json × List Char)
  | 0, _ => none
  | fuel + 1, cs =>
    match skipSpace cs with
    | '\x7b' :: cs =>
      match skipSpace cs with
      | '\x7d' :: rest => some (.object [], rest)
      | cs => (readMembers? strict fuel [] cs).map fun (ms, rest) => (.object ms, rest)
    | '[' :: cs =>
      match skipSpace cs with
      | ']' :: rest => some (.array [], rest)
      | cs => (readElements? strict fuel [] cs).map fun (es, rest) => (.array es, rest)
    | '"' :: cs =>
      (readText? strict ('"' :: cs)).map fun (s, rest) => (.string (String.ofList s), rest)
    | 'n' :: 'u' :: 'l' :: 'l' :: rest => some (.null, rest)
    | 't' :: 'r' :: 'u' :: 'e' :: rest => some (.bool true, rest)
    | 'f' :: 'a' :: 'l' :: 's' :: 'e' :: rest => some (.bool false, rest)
    | cs => (readNumber? cs).map fun (literal, rest) => (.number literal, rest)

/-- Reads the elements of an array, up to and with its closing bracket. -/
def readElements? (strict : Bool) :
    Nat → List Json → List Char → Option (List Json × List Char)
  | 0, _, _ => none
  | fuel + 1, acc, cs =>
    match readValue? strict fuel cs with
    | none => none
    | some (v, rest) =>
      match skipSpace rest with
      | ',' :: rest => readElements? strict fuel (v :: acc) rest
      | ']' :: rest => some ((v :: acc).reverse, rest)
      | _ => none

/-- Reads the members of an object, up to and with its closing brace. -/
def readMembers? (strict : Bool) :
    Nat → List (String × Json) → List Char → Option (List (String × Json) × List Char)
  | 0, _, _ => none
  | fuel + 1, acc, cs =>
    match readText? strict (skipSpace cs) with
    | none => none
    | some (key, rest) =>
      match skipSpace rest with
      | ':' :: rest =>
        match readValue? strict fuel rest with
        | none => none
        | some (v, rest) =>
          match skipSpace rest with
          | ',' :: rest => readMembers? strict fuel ((String.ofList key, v) :: acc) rest
          | '\x7d' :: rest => some (((String.ofList key, v) :: acc).reverse, rest)
          | _ => none
      | _ => none

end

/-- Enough steps for every value that a text can hold. -/
def enoughFuel (cs : List Char) : Nat := 2 * cs.length + 2

/-- Reads a text that is one value. -/
def read? (s : String) : Option Json :=
  match readValue? true (enoughFuel s.toList) s.toList with
  | some (v, rest) => if (skipSpace rest).isEmpty then some v else none
  | none => none

mutual

/-- How many arrays and objects stand within one another. -/
def depth : Json → Nat
  | .null | .bool _ | .number _ | .string _ => 0
  | .array es => depthOfElements es + 1
  | .object ms => depthOfMembers ms + 1

/-- The depth of the deepest element. -/
def depthOfElements : List Json → Nat
  | [] => 0
  | v :: vs => max (depth v) (depthOfElements vs)

/-- The depth of the deepest member. -/
def depthOfMembers : List (String × Json) → Nat
  | [] => 0
  | (_, v) :: ms => max (depth v) (depthOfMembers ms)

end

/-! ## Writing -/

/-- One character of a quoted text. Only quotes, backslashes and control characters are escaped. -/
def escapeChar (c : Char) : List Char :=
  if c = '"' then ['\\', '"']
  else if c = '\\' then ['\\', '\\']
  else if c = '\n' then ['\\', 'n']
  else if c = '\r' then ['\\', 'r']
  else if c = '\t' then ['\\', 't']
  else if c = Char.ofNat 8 then ['\\', 'b']
  else if c = Char.ofNat 12 then ['\\', 'f']
  else if c.toNat < 0x20 then
    ['\\', 'u', '0', '0', Text.hexDigit (c.toNat / 16), Text.hexDigit (c.toNat % 16)]
  else [c]

/-- A text between quotes. -/
def quoted (cs : List Char) : List Char := '"' :: cs.flatMap escapeChar ++ ['"']

mutual

/-- A value without any blanks. -/
def write : Json → List Char
  | .null => ['n', 'u', 'l', 'l']
  | .bool true => ['t', 'r', 'u', 'e']
  | .bool false => ['f', 'a', 'l', 's', 'e']
  | .number literal => literal
  | .string s => quoted s.toList
  | .array es => '[' :: writeElements es ++ [']']
  | .object ms => '\x7b' :: writeMembers ms ++ ['\x7d']

/-- The elements of an array with commas between them. -/
def writeElements : List Json → List Char
  | [] => []
  | [v] => write v
  | v :: vs => write v ++ ',' :: writeElements vs

/-- The members of an object with commas between them. -/
def writeMembers : List (String × Json) → List Char
  | [] => []
  | [(key, v)] => quoted key.toList ++ ':' :: write v
  | (key, v) :: ms => quoted key.toList ++ ':' :: write v ++ ',' :: writeMembers ms

end

/-- A value without any blanks. -/
def render (v : Json) : String := String.ofList v.write

/-- The number with this decimal text. -/
def ofNat (n : Nat) : Json := .number (Text.decimalDigits n)

/-- The value of the last member with this name. -/
def member? (v : Json) (key : String) : Option Json :=
  match v with
  | .object ms => (ms.reverse.find? (·.1 == key)).map (·.2)
  | _ => none

end Json

end Telemetry
