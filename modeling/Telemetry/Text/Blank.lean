/-!
# Blank characters

The blanks of Unicode (property `White_Space`) and trimming by them. A text with nothing but
blanks counts as empty wherever a definition or a setting asks for a text.
-/

namespace Telemetry.Text

/-- The characters with the property `White_Space`. -/
def isBlank (c : Char) : Bool :=
  let n := c.toNat
  (9 ≤ n && n ≤ 13) || n == 0x20 || n == 0x85 || n == 0xA0 || n == 0x1680 ||
    (0x2000 ≤ n && n ≤ 0x200A) || n == 0x2028 || n == 0x2029 || n == 0x202F || n == 0x205F ||
    n == 0x3000

/-- Drops from the end the characters with the property `p`. -/
def dropRightWhile (p : Char → Bool) (cs : List Char) : List Char :=
  (cs.reverse.dropWhile p).reverse

/-- The text between the blanks at its two ends. -/
def trimChars (cs : List Char) : List Char :=
  dropRightWhile isBlank (cs.dropWhile isBlank)

/-- The text between the blanks at its two ends. -/
def trim (s : String) : String := String.ofList (trimChars s.toList)

/-- The text holds nothing but blanks. -/
def isAllBlank (s : String) : Bool := (trimChars s.toList).isEmpty

theorem dropRightWhile_of_getLast {p : Char → Bool} {cs : List Char} {c : Char}
    (h : cs.getLast? = some c) (hc : p c = false) : dropRightWhile p cs = cs := by
  obtain ⟨init, rfl⟩ := List.getLast?_eq_some_iff.1 h
  rw [dropRightWhile, List.reverse_concat, List.dropWhile_cons_of_neg (by simp [hc]),
    List.reverse_cons, List.reverse_reverse]

/-- Nothing is trimmed where a text neither begins nor ends with a blank. -/
theorem trimChars_of_ends {first last : Char} {cs : List Char} (hfirst : isBlank first = false)
    (hlast : (first :: cs).getLast? = some last) (h : isBlank last = false) :
    trimChars (first :: cs) = first :: cs := by
  rw [trimChars, List.dropWhile_cons_of_neg (by simp [hfirst]), dropRightWhile_of_getLast hlast h]

end Telemetry.Text
