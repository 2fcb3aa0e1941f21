/-!
# Digits of natural numbers

Natural numbers and integers as decimal text, and natural numbers in base sixteen, without leading
zeros.
-/

namespace Telemetry.Text

/-- The digit for a value below sixteen, in small letters. -/
def hexDigit (n : Nat) : Char :=
  if n < 10 then Char.ofNat (48 + n) else Char.ofNat (87 + n)

/-- The digits of `n` in base sixteen, in small letters and without leading zeros. -/
def hexDigits (n : Nat) : List Char :=
  if n < 16 then [hexDigit n] else hexDigits (n / 16) ++ [hexDigit (n % 16)]

/-- The digits of `n` in base ten. -/
def decimalDigits (n : Nat) : List Char :=
  if n < 10 then [Char.ofNat (48 + n)] else decimalDigits (n / 10) ++ [Char.ofNat (48 + n % 10)]

/-- The decimal text of a natural number. -/
def ofNat (n : Nat) : String := String.ofList (decimalDigits n)

/-- The decimal text of an integer. -/
def ofInt : Int → String
  | .ofNat n => ofNat n
  | .negSucc n => "-" ++ ofNat (n + 1)

theorem decimalDigits_ne_nil (n : Nat) : decimalDigits n ≠ [] := by
  rw [decimalDigits]
  split <;> simp

theorem isDigit_ofNat {d : Nat} (h : d < 10) : (Char.ofNat (48 + d)).isDigit = true := by
  have hall : ∀ d < 10, (Char.ofNat (48 + d)).isDigit = true := by decide
  exact hall d h

theorem isDigit_of_mem_decimalDigits {n : Nat} {c : Char} (h : c ∈ decimalDigits n) :
    c.isDigit = true := by
  induction n using Nat.strongRecOn with
  | ind n ih =>
    rw [decimalDigits] at h
    by_cases hn : n < 10
    · rw [if_pos hn, List.mem_singleton] at h
      rw [h]
      exact isDigit_ofNat hn
    · rw [if_neg hn, List.mem_append, List.mem_singleton] at h
      rcases h with h | h
      · exact ih (n / 10) (by omega) h
      · rw [h]
        exact isDigit_ofNat (Nat.mod_lt n (by decide))

@[simp]
theorem toList_ofNat (n : Nat) : (ofNat n).toList = decimalDigits n := String.toList_ofList

end Telemetry.Text
