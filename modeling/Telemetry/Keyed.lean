/-!
# Keyed lists

Lists of pairs in which a key stands at most once, in the order in which the keys were last
written. Nothing reads that order: a keyed list is read one key at a time, and `get?_put` says all
there is to know about what a write does to a reading.
-/

namespace Telemetry.Keyed

variable {κ ν : Type} [DecidableEq κ]

/-- The value under a key. -/
def get? (entries : List (κ × ν)) (key : κ) : Option ν :=
  (entries.find? (·.1 == key)).map (·.2)

/-- Puts a value under a key, in the place of an earlier one. -/
def put (entries : List (κ × ν)) (key : κ) (value : ν) : List (κ × ν) :=
  (key, value) :: entries.filter (·.1 ≠ key)

@[simp]
theorem get?_nil (key : κ) : get? ([] : List (κ × ν)) key = none := rfl

theorem get?_put (entries : List (κ × ν)) (key other : κ) (value : ν) :
    get? (put entries key value) other =
      if key = other then some value else get? entries other := by
  by_cases h : key = other
  · simp [get?, put, h]
  · have hfind : (entries.filter (·.1 ≠ key)).find? (·.1 == other) =
        entries.find? (·.1 == other) := by
      rw [List.find?_filter]
      refine congrArg (fun p => List.find? p entries) (funext fun e => ?_)
      by_cases he : e.1 = other
      · simp [he, Ne.symm h]
      · simp [he]
    simp [get?, put, h, ← hfind]

omit [DecidableEq κ] in
/-- A search by keys comes to the first entry whose key is looked for. -/
theorem map_find?_eq_some_iff {entries : List (κ × ν)} {p : κ → Bool} {value : ν} :
    (entries.find? fun e ↦ p e.1).map (·.2) = some value ↔
      ∃ before key after, entries = before ++ (key, value) :: after ∧ p key = true ∧
        ∀ e ∈ before, p e.1 = false := by
  rw [Option.map_eq_some_iff]
  constructor
  · rintro ⟨⟨key, _⟩, hfind, rfl⟩
    obtain ⟨hkey, before, after, heq, hbefore⟩ := List.find?_eq_some_iff_append.1 hfind
    exact ⟨before, key, after, heq, hkey, fun e he ↦ by simpa using hbefore e he⟩
  · rintro ⟨before, key, after, heq, hkey, hbefore⟩
    refine ⟨(key, value), List.find?_eq_some_iff_append.2 ⟨hkey, before, after, heq, ?_⟩, rfl⟩
    exact fun e he ↦ by simpa using hbefore e he

/-! ### Lists with different keys -/

theorem mem_of_get? {entries : List (κ × ν)} {key : κ} {value : ν}
    (h : get? entries key = some value) : (key, value) ∈ entries := by
  obtain ⟨e, hfind, rfl⟩ := Option.map_eq_some_iff.1 h
  have hkey : e.1 = key := by simpa using List.find?_some hfind
  exact hkey ▸ List.mem_of_find?_eq_some hfind

theorem get?_eq_none_iff {entries : List (κ × ν)} {key : κ} :
    get? entries key = none ↔ key ∉ entries.map (·.1) := by
  simp only [get?, Option.map_eq_none_iff, List.find?_eq_none, List.mem_map, beq_iff_eq, not_exists,
    not_and]

theorem get?_eq_some_iff {entries : List (κ × ν)} (hnodup : (entries.map (·.1)).Nodup) {key : κ}
    {value : ν} : get? entries key = some value ↔ (key, value) ∈ entries := by
  refine ⟨mem_of_get?, fun h ↦ ?_⟩
  induction entries with
  | nil => cases h
  | cons e entries ih =>
    rw [List.map_cons, List.nodup_cons] at hnodup
    rcases List.mem_cons.1 h with rfl | h
    · simp [get?]
    · have hne : e.1 ≠ key := fun heq ↦ hnodup.1 (heq ▸ List.mem_map_of_mem h)
      have hrest := ih hnodup.2 h
      rw [get?] at hrest ⊢
      rwa [List.find?_cons_of_neg (by simpa using hne)]

/-- Where keys are different, their order does not matter. -/
theorem get?_of_perm {entries entries' : List (κ × ν)} (hperm : entries.Perm entries')
    (hnodup : (entries.map (·.1)).Nodup) (key : κ) : get? entries key = get? entries' key := by
  have hnodup' := (hperm.map (·.1)).nodup_iff.1 hnodup
  refine Option.ext fun value ↦ ?_
  rw [get?_eq_some_iff hnodup, get?_eq_some_iff hnodup', hperm.mem_iff]

theorem get?_map {ω : Type} (f : κ → ν → ω) (entries : List (κ × ν)) (key : κ) :
    get? (entries.map fun e ↦ (e.1, f e.1 e.2)) key = (get? entries key).map (f key) := by
  induction entries with
  | nil => rfl
  | cons e entries ih =>
    rw [get?, get?] at ih ⊢
    by_cases hkey : e.1 = key
    · simp [hkey]
    · rw [List.map_cons, List.find?_cons_of_neg (by simpa using hkey),
        List.find?_cons_of_neg (by simpa using hkey), ih]

/-! ### Many writes -/

/-- Puts values under keys, one after the other. -/
def putAll (entries : List (κ × ν)) (written : List (κ × ν)) : List (κ × ν) :=
  written.foldl (fun entries e => put entries e.1 e.2) entries

theorem get?_putAll_of_not_mem {entries written : List (κ × ν)} {key : κ}
    (h : key ∉ written.map (·.1)) : get? (putAll entries written) key = get? entries key := by
  induction written generalizing entries with
  | nil => rfl
  | cons e written ih =>
    rw [List.map_cons, List.mem_cons, not_or] at h
    rw [putAll, List.foldl_cons, ← putAll, ih h.2, get?_put, if_neg (Ne.symm h.1)]

/-- Of values that are put under different keys, each is found. -/
theorem get?_putAll_of_mem {entries written : List (κ × ν)} {key : κ} {value : ν}
    (hnodup : (written.map (·.1)).Nodup) (h : (key, value) ∈ written) :
    get? (putAll entries written) key = some value := by
  induction written generalizing entries with
  | nil => cases h
  | cons e written ih =>
    rw [List.map_cons, List.nodup_cons] at hnodup
    rw [putAll, List.foldl_cons, ← putAll]
    rcases List.mem_cons.mp h with rfl | h
    · rw [get?_putAll_of_not_mem hnodup.1, get?_put, if_pos rfl]
    · exact ih hnodup.2 h

/-- Different keys can be written in any order, as far as reading goes. -/
theorem get?_putAll_congr {entries entries' written written' : List (κ × ν)}
    (hsame : ∀ key, get? entries' key = get? entries key) (hperm : written'.Perm written)
    (hnodup : (written.map (·.1)).Nodup) (key : κ) :
    get? (putAll entries' written') key = get? (putAll entries written) key := by
  have hkeys := hperm.map (·.1)
  by_cases h : key ∈ written.map (·.1)
  · obtain ⟨⟨key, value⟩, hmem, rfl⟩ := List.mem_map.1 h
    rw [get?_putAll_of_mem hnodup hmem,
      get?_putAll_of_mem (hkeys.nodup_iff.2 hnodup) (hperm.mem_iff.2 hmem)]
  · rw [get?_putAll_of_not_mem h, get?_putAll_of_not_mem (mt hkeys.mem_iff.1 h), hsame]

theorem put_perm {entries entries' : List (κ × ν)} (h : entries'.Perm entries) (key : κ)
    (value : ν) : (put entries' key value).Perm (put entries key value) :=
  (h.filter _).cons _

theorem put_comm (entries : List (κ × ν)) {key key' : κ} (hne : key ≠ key') (value value' : ν) :
    (put (put entries key value) key' value').Perm (put (put entries key' value') key value) := by
  have hfirst : put (put entries key value) key' value' =
      (key', value') :: (key, value) :: (entries.filter (·.1 ≠ key)).filter (·.1 ≠ key') := by
    rw [put, put, List.filter_cons_of_pos (by simpa using hne)]
  have hsecond : put (put entries key' value') key value =
      (key, value) :: (key', value') :: (entries.filter (·.1 ≠ key')).filter (·.1 ≠ key) := by
    rw [put, put, List.filter_cons_of_pos (by simpa using Ne.symm hne)]
  have hfilter : (fun e : κ × ν ↦ decide (e.1 ≠ key') && decide (e.1 ≠ key)) =
      fun e ↦ decide (e.1 ≠ key) && decide (e.1 ≠ key') := funext fun _ ↦ Bool.and_comm _ _
  rw [hfirst, hsecond, List.filter_filter, List.filter_filter, hfilter]
  exact .swap _ _ _

theorem putAll_perm {entries entries' : List (κ × ν)} (h : entries'.Perm entries)
    (written : List (κ × ν)) : (putAll entries' written).Perm (putAll entries written) := by
  induction written generalizing entries entries' with
  | nil => exact h
  | cons e written ih => exact ih (put_perm h e.1 e.2)

/-- Different keys can be written in any order, as far as the entries go. -/
theorem perm_putAll {written written' : List (κ × ν)} (h : written'.Perm written)
    (hnodup : (written'.map (·.1)).Nodup) (entries : List (κ × ν)) :
    (putAll entries written').Perm (putAll entries written) := by
  induction h generalizing entries with
  | nil => exact .refl _
  | cons e _ ih =>
    rw [List.map_cons, List.nodup_cons] at hnodup
    exact ih hnodup.2 _
  | swap e e' written =>
    have hne : e'.1 ≠ e.1 := by
      rw [List.map_cons, List.map_cons, List.nodup_cons] at hnodup
      exact fun heq ↦ hnodup.1 (heq ▸ List.mem_cons_self)
    exact putAll_perm (put_comm entries hne e'.2 e.2) written
  | trans h _ ih ih' =>
    exact (ih hnodup entries).trans (ih' ((h.map (·.1)).nodup_iff.1 hnodup) entries)

end Telemetry.Keyed
