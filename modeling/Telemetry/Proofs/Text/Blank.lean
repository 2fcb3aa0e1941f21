import Mathlib.Data.List.TakeWhile
import Telemetry.Text.Blank

/-!
# Texts of nothing but blanks

Trimming drops nothing but blanks, so nothing is left of a text exactly if it has nothing but blanks
(`trimChars_eq_nil_iff`).
-/

namespace Telemetry.Text

/-- The text has nothing but blanks, if anything. -/
def OnlyBlanks (s : String) : Prop := ∀ c ∈ s.toList, isBlank c = true

theorem mem_dropWhile_of_neg {p : Char → Bool} {cs : List Char} {c : Char} (h : c ∈ cs)
    (hc : p c = false) : c ∈ cs.dropWhile p := by
  rw [← List.takeWhile_append_dropWhile (p := p) (l := cs), List.mem_append] at h
  refine h.resolve_left fun htake ↦ ?_
  have hall := List.all_eq_true.1 List.all_takeWhile c htake
  rw [hc] at hall
  cases hall

/-- Trimming drops nothing but blanks. -/
theorem mem_trimChars_of_not_isBlank {cs : List Char} {c : Char} (h : c ∈ cs)
    (hc : isBlank c = false) : c ∈ trimChars cs := by
  rw [trimChars, dropRightWhile, List.mem_reverse]
  refine mem_dropWhile_of_neg (List.mem_reverse.2 ?_) hc
  exact mem_dropWhile_of_neg h hc

theorem trimChars_eq_nil_iff {cs : List Char} :
    trimChars cs = [] ↔ ∀ c ∈ cs, isBlank c = true := by
  constructor
  · intro h c hc
    rw [← Bool.not_eq_false]
    intro hblank
    have hmem := mem_trimChars_of_not_isBlank hc hblank
    rw [h] at hmem
    cases hmem
  · intro h
    rw [trimChars, List.dropWhile_eq_nil_iff.2 h]
    rfl

theorem isAllBlank_iff {s : String} : isAllBlank s = true ↔ OnlyBlanks s := by
  rw [isAllBlank, List.isEmpty_iff, trimChars_eq_nil_iff, OnlyBlanks]

theorem trim_eq_empty_iff {s : String} : trim s = "" ↔ OnlyBlanks s := by
  rw [← String.toList_eq_nil_iff, trim, String.toList_ofList, trimChars_eq_nil_iff, OnlyBlanks]

/-- Blanks around a text are trimmed with those that it has at its ends. -/
theorem trimChars_append_append {before after : List Char}
    (hbefore : ∀ b ∈ before, isBlank b = true) (hafter : ∀ b ∈ after, isBlank b = true)
    (cs : List Char) : trimChars (before ++ cs ++ after) = trimChars cs := by
  have hreverse : ∀ b ∈ after.reverse, isBlank b = true := fun b hb ↦
    hafter b (List.mem_reverse.1 hb)
  rw [trimChars, trimChars, List.append_assoc, List.dropWhile_append_of_pos hbefore,
    List.dropWhile_append]
  split
  · rename_i hempty
    rw [List.isEmpty_iff.1 hempty, List.dropWhile_eq_nil_iff.2 hafter]
  · rw [dropRightWhile, List.reverse_append, List.dropWhile_append_of_pos hreverse,
      ← dropRightWhile]

end Telemetry.Text
