import Mathlib.Data.List.TakeWhile
import Telemetry.Text.Blank

/-!
# The head of a text

A text is taken apart by taking characters from its head as long as they have a property. Where it
was put together so that the first part has the property and what follows does not go on with it,
the parts come back.
-/

namespace Telemetry.Text

variable {p : Char → Bool} {c : Char} {cs rest : List Char}

theorem takeWhile_append (hcs : ∀ c ∈ cs, p c = true) (hrest : ∀ c ∈ rest.head?, p c = false) :
    (cs ++ rest).takeWhile p = cs := by
  rw [List.takeWhile_append_of_pos hcs]
  cases rest with
  | nil => exact List.append_nil cs
  | cons c rest =>
    have hc : ¬ p c = true := Bool.eq_false_iff.1 (hrest c rfl)
    rw [List.takeWhile_cons_of_neg hc, List.append_nil]

theorem dropWhile_append (hcs : ∀ c ∈ cs, p c = true) (hrest : ∀ c ∈ rest.head?, p c = false) :
    (cs ++ rest).dropWhile p = rest := by
  rw [List.dropWhile_append_of_pos hcs]
  cases rest with
  | nil => rfl
  | cons c rest => exact List.dropWhile_cons_of_neg (Bool.eq_false_iff.1 (hrest c rfl))

/-- What is taken ends before the first character without the property. -/
theorem takeWhile_append_of_exists (h : ∃ c ∈ cs, p c = false) (rest : List Char) :
    (cs ++ rest).takeWhile p = cs.takeWhile p ∧
      ((cs ++ rest).drop (cs.takeWhile p).length).isEmpty = false := by
  have hne : (cs.takeWhile p).length ≠ cs.length := by
    intro hlength
    obtain ⟨c, hc, hp⟩ := h
    rw [← (List.takeWhile_prefix p).eq_of_length hlength] at hc
    rw [List.mem_takeWhile_imp hc] at hp
    cases hp
  have hle := (List.takeWhile_prefix (l := cs) p).length_le
  constructor
  · rw [List.takeWhile_append, if_neg hne]
  · rw [List.isEmpty_eq_false_iff, ← List.length_pos_iff, List.length_drop, List.length_append]
    omega

/-- What is dropped ends before the first character without the property. -/
theorem dropWhile_append_cons (h : p c = false) (cs rest : List Char) :
    (cs ++ c :: rest).dropWhile p = cs.dropWhile p ++ c :: rest := by
  induction cs with
  | nil => exact List.dropWhile_cons_of_neg (Bool.eq_false_iff.1 h)
  | cons d cs ih =>
    by_cases hd : p d = true
    · rw [List.cons_append, List.dropWhile_cons_of_pos hd, List.dropWhile_cons_of_pos hd, ih]
    · rw [List.cons_append, List.dropWhile_cons_of_neg hd, List.dropWhile_cons_of_neg hd,
        List.cons_append]

theorem dropRightWhile_append_cons (h : p c = false) (cs rest : List Char) :
    dropRightWhile p (cs ++ c :: rest) = cs ++ c :: dropRightWhile p rest := by
  unfold dropRightWhile
  rw [List.reverse_append, List.reverse_cons, List.append_assoc, List.singleton_append,
    dropWhile_append_cons h, List.reverse_append, List.reverse_cons, List.reverse_reverse,
    List.append_assoc, List.singleton_append]

theorem mem_of_mem_dropRightWhile (h : c ∈ dropRightWhile p cs) : c ∈ cs :=
  List.mem_reverse.1 ((List.dropWhile_sublist p).subset (List.mem_reverse.1 h))

end Telemetry.Text
