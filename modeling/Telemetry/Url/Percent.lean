import Telemetry.Text.Quoted
import Telemetry.Text.Utf8

/-!
# Percent encoding

A character that a part of a url cannot hold is written as its UTF-8 bytes, each a percent sign
with two digits in base sixteen. Each part has its own set of such characters; the percent sign is
in none of them, so what is encoded already stays as it is.
-/

namespace Telemetry.Percent

/-- A set of ASCII characters that are to be encoded. All other characters outside of ASCII are
encoded in any case. -/
abbrev EncodeSet := Char → Bool

/-- The control characters. -/
def controls : EncodeSet := fun c => c.toNat < 0x20 || c.toNat = 0x7F

/-- What a fragment cannot hold. -/
def fragment : EncodeSet := fun c => controls c || [' ', '"', '<', '>', Char.ofNat 0x60].contains c

/-- What a path cannot hold. -/
def path : EncodeSet := fun c => fragment c || ['#', '?', '\x7b', '\x7d'].contains c

/-- What a query cannot hold. -/
def query : EncodeSet := fun c => controls c || [' ', '"', '#', '<', '>'].contains c

/-- What the query of a web address cannot hold. -/
def webQuery : EncodeSet := fun c => query c || c = '\''

/-- What a user name or a password cannot hold. -/
def userInfo : EncodeSet := fun c =>
  path c || ['/', ':', ';', '=', '@', '[', '\\', ']', '^', '|'].contains c

/-- The digit for a value below sixteen, in capital letters. -/
def digit (n : Nat) : Char := (Text.hexDigit n).toUpper

/-- One encoded byte. -/
def encodeByte (b : UInt8) : List Char := ['%', digit (b.toNat / 16), digit (b.toNat % 16)]

/-- One character, encoded if it has to be. -/
def encodeChar (set : EncodeSet) (c : Char) : List Char :=
  if c.toNat < 0x80 && !set c then [c] else (String.utf8EncodeChar c).flatMap encodeByte

/-- A text without the characters of the set. -/
def encode (set : EncodeSet) (cs : List Char) : List Char := cs.flatMap (encodeChar set)

/-- The value of a digit in base sixteen. -/
def value? (c : Char) : Option Nat :=
  if '0' ≤ c && c ≤ '9' then some (c.toNat - 48)
  else if 'a' ≤ c && c ≤ 'f' then some (c.toNat - 87)
  else if 'A' ≤ c && c ≤ 'F' then some (c.toNat - 55)
  else none

/-- The bytes that an encoded text stands for. A percent sign without two digits behind it stands
for itself. -/
def decode : List Char → List UInt8
  | '%' :: a :: b :: rest =>
    match value? a, value? b with
    | some x, some y => UInt8.ofNat (x * 16 + y) :: decode rest
    | _, _ => 0x25 :: decode (a :: b :: rest)
  | c :: rest => String.utf8EncodeChar c ++ decode rest
  | [] => []
termination_by cs => cs.length

end Telemetry.Percent
