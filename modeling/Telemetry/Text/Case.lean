import Telemetry.Text.CaseTable

/-!
# Lower case

Full lower-casing by Unicode: the simple mappings of the table, the dotted capital I, whose small
form has two characters, and the capital sigma, whose small form depends on its place in the word.
-/

namespace Telemetry.Text

/-- The character lies in one of the ranges. -/
def inRanges (ranges : List (Nat × Nat)) (n : Nat) : Bool :=
  ranges.any fun r => r.1 ≤ n && n ≤ r.2

/-- The character has case and is not passed over by the rule for a final sigma. -/
def isCased (c : Char) : Bool := inRanges casedRanges c.toNat

/-- The rule for a final sigma passes over the character. -/
def isCaseIgnorable (c : Char) : Bool := inRanges caseIgnorableRanges c.toNat

/-- The code point of the small letter for a code point. -/
def lowerCode (n : Nat) : Nat :=
  match caseRuns.find? fun r => r.first ≤ n && n ≤ r.last && (n - r.first) % r.step == 0 with
  | some r => (n + r.shift : Int).toNat
  | none => n

/-- The small form of one character, outside of any word. -/
def lowerChar (c : Char) : List Char :=
  if c.toNat < 0x80 then [c.toLower]
  else if c.toNat = 0x130 then ['i', Char.ofNat 0x307]
  else [Char.ofNat (lowerCode c.toNat)]

/-- A cased letter comes first once the ignorable characters are passed over. -/
def meetsCased (cs : List Char) : Bool :=
  match cs.dropWhile isCaseIgnorable with
  | c :: _ => isCased c
  | [] => false

/-- Lower-cases a text. `before` holds the characters already passed, the nearest first: a capital
sigma is final when a cased letter stands before it and none after it. -/
def lowerFrom (before : List Char) : List Char → List Char
  | [] => []
  | c :: rest =>
    (if c = 'Σ' then [if meetsCased before && !meetsCased rest then 'ς' else 'σ']
      else lowerChar c) ++ lowerFrom (c :: before) rest

/-- Lower-cases a text. -/
def lowerChars (cs : List Char) : List Char := lowerFrom [] cs

/-- Lower-cases a text. -/
def lower (s : String) : String := String.ofList (lowerChars s.toList)

/-- Lower-cases the ASCII letters and leaves every other character alone. -/
def lowerAscii (s : String) : String := String.ofList (s.toList.map Char.toLower)

end Telemetry.Text
