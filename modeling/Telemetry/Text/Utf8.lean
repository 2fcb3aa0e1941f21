import Telemetry.Text.Digits

/-!
# UTF-8

Bytes to characters and back. Reading goes through one step, `Utf8.next`, that takes a character,
a stretch that can be no part of one, or a character that the end of the input cuts off; strict
and lossy decoding are two uses of it.

* `encode` writes characters, `decode` is its inverse on what it wrote.
* A fault names the offset of the first stretch that is not UTF-8.
-/

namespace Telemetry.Utf8

/-- The bytes of a list of characters. -/
def encodeChars (cs : List Char) : List UInt8 := cs.flatMap String.utf8EncodeChar

/-- The bytes of a text. -/
def encode (s : String) : List UInt8 := encodeChars s.toList

/-- What stands at the head of a byte string. -/
inductive Item where
  /-- A character. -/
  | scalar (c : Char)
  /-- So many bytes that begin no character. -/
  | invalid (count : Nat)
  /-- The first bytes of a character, cut off by the end of the input. -/
  | truncated (count : Nat)
  deriving DecidableEq, Repr

/-- The number of input bytes behind an item. -/
def Item.size : Item → Nat
  | .scalar c => c.utf8Size
  | .invalid n => n
  | .truncated n => n

/-- A byte that continues a character. -/
def isContinuation (b : UInt8) : Bool := 0x80 ≤ b && b ≤ 0xBF

/-- How a character goes on after its first byte. -/
structure Shape where
  /-- The bytes that follow. -/
  more : Nat
  /-- The least second byte. -/
  low : UInt8
  /-- The greatest second byte. -/
  high : UInt8
  /-- The bits that the first byte contributes. -/
  bits : Nat
  deriving DecidableEq

/-- The shape that a first byte above ASCII announces. The bounds on the second byte keep out
overlong forms, surrogates and what lies above U+10FFFF. -/
def shape? (b : UInt8) : Option Shape :=
  if 0xC2 ≤ b && b ≤ 0xDF then some ⟨1, 0x80, 0xBF, b.toNat - 0xC0⟩
  else if b = 0xE0 then some ⟨2, 0xA0, 0xBF, 0⟩
  else if b = 0xED then some ⟨2, 0x80, 0x9F, 0xD⟩
  else if 0xE1 ≤ b && b ≤ 0xEF then some ⟨2, 0x80, 0xBF, b.toNat - 0xE0⟩
  else if b = 0xF0 then some ⟨3, 0x90, 0xBF, 0⟩
  else if 0xF1 ≤ b && b ≤ 0xF3 then some ⟨3, 0x80, 0xBF, b.toNat - 0xF0⟩
  else if b = 0xF4 then some ⟨3, 0x80, 0x8F, 4⟩
  else none

/-- Takes `more` continuation bytes. `taken` counts the bytes of the character so far. -/
def continueWith (bits taken : Nat) : Nat → List UInt8 → Item × List UInt8
  | 0, bs => (.scalar (Char.ofNat bits), bs)
  | _ + 1, [] => (.truncated taken, [])
  | more + 1, b :: bs =>
    if isContinuation b then continueWith (bits * 64 + (b.toNat - 0x80)) (taken + 1) more bs
    else (.invalid taken, b :: bs)

/-- What stands at the head of `b :: bs`, and the bytes behind it. -/
def next (b : UInt8) (bs : List UInt8) : Item × List UInt8 :=
  if b < 0x80 then (.scalar (Char.ofNat b.toNat), bs)
  else match shape? b with
    | none => (.invalid 1, bs)
    | some s =>
      match bs with
      | [] => (.truncated 1, [])
      | b₂ :: rest =>
        if s.low ≤ b₂ && b₂ ≤ s.high then
          continueWith (s.bits * 64 + (b₂.toNat - 0x80)) 2 (s.more - 1) rest
        else (.invalid 1, b₂ :: rest)

theorem continueWith_length_le (bits taken more : Nat) (bs : List UInt8) :
    (continueWith bits taken more bs).2.length ≤ bs.length := by
  induction more generalizing bits taken bs with
  | zero => simp [continueWith]
  | succ more ih =>
    cases bs with
    | nil => simp [continueWith]
    | cons b bs =>
      by_cases hb : isContinuation b
      · simpa [continueWith, hb] using Nat.le_succ_of_le (ih _ _ bs)
      · simp [continueWith, hb]

theorem next_length_lt (b : UInt8) (bs : List UInt8) :
    (next b bs).2.length < (b :: bs).length := by
  unfold next
  split
  · simp
  · split
    · simp
    · split
      · simp
      · split
        · exact Nat.lt_succ_of_le (Nat.le_succ_of_le (continueWith_length_le ..))
        · simp

/-- Everything that stands in a byte string, in order. -/
def items : List UInt8 → List Item
  | [] => []
  | b :: bs => (next b bs).1 :: items (next b bs).2
termination_by bs => bs.length
decreasing_by exact next_length_lt b bs

/-- One replacement character in the place of each stretch that is not UTF-8. -/
def decodeLossyChars (bs : List UInt8) : List Char :=
  (items bs).map fun
    | .scalar c => c
    | _ => Char.ofNat 0xFFFD

/-- Decodes a byte string; each stretch that is not UTF-8 becomes one replacement character. -/
def decodeLossy (bs : List UInt8) : String := String.ofList (decodeLossyChars bs)

/-- Why a byte string is not UTF-8. -/
inductive Fault where
  /-- So many bytes at the offset begin no character. -/
  | invalid (count offset : Nat)
  /-- The input ends inside the character at the offset. -/
  | incomplete (offset : Nat)
  deriving DecidableEq, Repr

/-- The characters of the items, or the first fault among them. `offset` is that of the first
item. -/
def collect (offset : Nat) : List Item → Except Fault (List Char)
  | [] => .ok []
  | .scalar c :: rest => (collect (offset + c.utf8Size) rest).map (c :: ·)
  | .invalid n :: _ => .error (.invalid n offset)
  | .truncated _ :: _ => .error (.incomplete offset)

/-- Decodes a byte string that is UTF-8 from end to end. -/
def decode (bs : List UInt8) : Except Fault String :=
  (collect 0 (items bs)).map String.ofList

/-- What a message says of a fault. -/
def Fault.message : Fault → String
  | .invalid count offset =>
    "invalid utf-8 sequence of " ++ Text.ofNat count ++ " bytes from index " ++ Text.ofNat offset
  | .incomplete offset => "incomplete utf-8 byte sequence from index " ++ Text.ofNat offset

end Telemetry.Utf8
