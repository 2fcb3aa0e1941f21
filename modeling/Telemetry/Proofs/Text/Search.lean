import Telemetry.Text.Search

/-!
# Splitting and joining

A text is the join of its pieces (`joinWith_splitOnChar`), and pieces without separators are read
back from their join (`splitOnChar_joinWith`).
-/

namespace Telemetry.Text

variable {p : Char → Bool} {cs piece : List Char} {c : Char}

/-! ## The pieces of a text -/

theorem splitOnChar_ne_nil (p : Char → Bool) (cs : List Char) : splitOnChar p cs ≠ [] := by
  cases cs with
  | nil => exact List.cons_ne_nil _ _
  | cons c cs =>
    rw [splitOnChar]
    split
    · exact List.cons_ne_nil _ _
    · split
      · exact List.cons_ne_nil _ _
      · exact List.cons_ne_nil _ _

theorem splitOnChar_cons_of_pos (h : p c = true) (cs : List Char) :
    splitOnChar p (c :: cs) = [] :: splitOnChar p cs := by
  rw [splitOnChar, if_pos h]

/-- A character that is no separator belongs to the first piece. -/
theorem splitOnChar_cons_of_neg (h : ¬ p c = true) (cs : List Char) :
    ∃ first more, splitOnChar p cs = first :: more ∧
      splitOnChar p (c :: cs) = (c :: first) :: more := by
  obtain ⟨first, more, hpieces⟩ := List.exists_cons_of_ne_nil (splitOnChar_ne_nil p cs)
  refine ⟨first, more, hpieces, ?_⟩
  rw [splitOnChar, if_neg h, hpieces]

/-- Nothing stands behind a separator at the end. -/
theorem splitOnChar_concat (hc : p c = true) (cs : List Char) :
    splitOnChar p (cs ++ [c]) = splitOnChar p cs ++ [[]] := by
  induction cs with
  | nil => simp [splitOnChar, hc]
  | cons d cs ih =>
    rw [List.cons_append, splitOnChar, splitOnChar, ih]
    by_cases hd : p d = true
    · rw [if_pos hd, if_pos hd, List.cons_append]
    · rw [if_neg hd, if_neg hd]
      obtain ⟨piece, more, hpieces⟩ := List.exists_cons_of_ne_nil (splitOnChar_ne_nil p cs)
      rw [hpieces]
      rfl

/-- The pieces of a text are made of its characters, and no separator is among them. -/
theorem of_mem_splitOnChar (hpiece : piece ∈ splitOnChar p cs) (hc : c ∈ piece) :
    c ∈ cs ∧ p c = false := by
  induction cs generalizing piece with
  | nil =>
    obtain rfl := List.mem_singleton.1 hpiece
    simp at hc
  | cons d cs ih =>
    by_cases hd : p d = true
    · rw [splitOnChar_cons_of_pos hd] at hpiece
      rcases List.mem_cons.1 hpiece with rfl | hpiece
      · simp at hc
      · exact ⟨List.mem_cons_of_mem d (ih hpiece hc).1, (ih hpiece hc).2⟩
    · obtain ⟨first, more, hpieces, hsplit⟩ := splitOnChar_cons_of_neg hd cs
      rw [hpieces] at ih
      rw [hsplit] at hpiece
      rcases List.mem_cons.1 hpiece with rfl | hpiece
      · rcases List.mem_cons.1 hc with rfl | hc
        · exact ⟨List.mem_cons_self, Bool.eq_false_iff.2 hd⟩
        · have h := ih List.mem_cons_self hc
          exact ⟨List.mem_cons_of_mem d h.1, h.2⟩
      · have h := ih (List.mem_cons_of_mem first hpiece) hc
        exact ⟨List.mem_cons_of_mem d h.1, h.2⟩

/-! ## Pieces with separators between them -/

theorem joinWith_cons (sep : List Char) (t : List Char) {ts : List (List Char)} (h : ts ≠ []) :
    joinWith sep (t :: ts) = t ++ sep ++ joinWith sep ts := by
  cases ts with
  | nil => exact absurd rfl h
  | cons => rfl

/-- A text is the join of its pieces. -/
theorem joinWith_splitOnChar (sep : Char) (cs : List Char) :
    joinWith [sep] (splitOnChar (· = sep) cs) = cs := by
  induction cs with
  | nil => rfl
  | cons c cs ih =>
    by_cases hc : c = sep
    · rw [splitOnChar_cons_of_pos (by simpa using hc),
        joinWith_cons _ _ (splitOnChar_ne_nil _ _), ih, hc]
      rfl
    · obtain ⟨first, more, hpieces, hsplit⟩ :=
        splitOnChar_cons_of_neg (p := fun d ↦ decide (d = sep)) (by simpa using hc) cs
      rw [hpieces] at ih
      rw [hsplit, ← ih]
      cases more with
      | nil => rfl
      | cons => rfl

/-- A piece ends before the first separator. -/
theorem splitOnChar_append_cons (hpiece : ∀ d ∈ piece, p d = false) (hc : p c = true)
    (rest : List Char) : splitOnChar p (piece ++ c :: rest) = piece :: splitOnChar p rest := by
  induction piece with
  | nil => exact splitOnChar_cons_of_pos hc rest
  | cons d piece ih =>
    obtain ⟨hd, hpiece⟩ := List.forall_mem_cons.1 hpiece
    rw [List.cons_append, splitOnChar, if_neg (Bool.eq_false_iff.1 hd), ih hpiece]

theorem splitOnChar_of_forall (hpiece : ∀ d ∈ piece, p d = false) :
    splitOnChar p piece = [piece] := by
  induction piece with
  | nil => rfl
  | cons d piece ih =>
    obtain ⟨hd, hpiece⟩ := List.forall_mem_cons.1 hpiece
    rw [splitOnChar, if_neg (Bool.eq_false_iff.1 hd), ih hpiece]

/-- Pieces without separators are read back from their join. -/
theorem splitOnChar_joinWith (hc : p c = true) {pieces : List (List Char)} (hne : pieces ≠ [])
    (h : ∀ piece ∈ pieces, ∀ d ∈ piece, p d = false) :
    splitOnChar p (joinWith [c] pieces) = pieces := by
  induction pieces with
  | nil => exact absurd rfl hne
  | cons piece pieces ih =>
    obtain ⟨hpiece, hpieces⟩ := List.forall_mem_cons.1 h
    by_cases hlast : pieces = []
    · rw [hlast]
      exact splitOnChar_of_forall hpiece
    · rw [joinWith_cons _ _ hlast, List.append_assoc, List.singleton_append,
        splitOnChar_append_cons hpiece hc, ih hlast hpieces]

theorem mem_joinWith {sep : List Char} {pieces : List (List Char)} (h : c ∈ joinWith sep pieces) :
    c ∈ sep ∨ ∃ piece ∈ pieces, c ∈ piece := by
  induction pieces with
  | nil => simp [joinWith] at h
  | cons piece pieces ih =>
    by_cases hlast : pieces = []
    · rw [hlast] at h
      exact .inr ⟨piece, List.mem_cons_self, h⟩
    · rw [joinWith_cons _ _ hlast, List.mem_append, List.mem_append] at h
      rcases h with (h | h) | h
      · exact .inr ⟨piece, List.mem_cons_self, h⟩
      · exact .inl h
      · exact (ih h).imp_right fun ⟨t, ht, hct⟩ ↦ ⟨t, List.mem_cons_of_mem piece ht, hct⟩

theorem mem_joinWith_of_mem (sep : List Char) {pieces : List (List Char)} (hpiece : piece ∈ pieces)
    (hc : c ∈ piece) : c ∈ joinWith sep pieces := by
  induction pieces with
  | nil => cases hpiece
  | cons first pieces ih =>
    by_cases hlast : pieces = []
    · subst hlast
      exact List.mem_singleton.1 hpiece ▸ hc
    · rw [joinWith_cons _ _ hlast, List.mem_append, List.mem_append]
      rcases List.mem_cons.1 hpiece with rfl | hpiece
      · exact .inl (.inl hc)
      · exact .inr (ih hpiece)

/-- A character that is no separator stands in one of the pieces. -/
theorem exists_mem_splitOnChar {sep : Char} (h : c ∈ cs) (hc : c ≠ sep) :
    ∃ piece ∈ splitOnChar (· = sep) cs, c ∈ piece := by
  rw [← joinWith_splitOnChar sep cs] at h
  exact (mem_joinWith h).resolve_left fun hsep ↦ hc (List.mem_singleton.1 hsep)

/-! ## Finding a character -/

theorem occurs_singleton (c : Char) (cs : List Char) : occurs [c] cs = true ↔ c ∈ cs := by
  induction cs with
  | nil => simp [occurs]
  | cons d cs ih =>
    rw [occurs, Bool.or_eq_true, ih, List.mem_cons, after?]
    by_cases hd : c = d
    · simp [hd, after?]
    · simp [hd]

end Telemetry.Text
