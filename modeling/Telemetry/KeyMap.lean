/-!
# Maps in key order

Small maps as lists of pairs, kept in the order of their keys. Two keys are compared code point by
code point, which is also the order of their UTF-8 bytes. Entries of a map come out in that order
wherever a definition, a target list or a message depends on it.
-/

namespace Telemetry

/-- A map from texts, as pairs in the order of the keys. -/
abbrev KeyMap (α : Type) := List (String × α)

namespace KeyMap

variable {α β : Type}

/-- The value under a key. -/
def get? (m : KeyMap α) (key : String) : Option α :=
  match m with
  | [] => none
  | (k, v) :: rest => if k = key then some v else get? rest key

/-- Puts a value under a key, in the place of an earlier one. -/
def insert (m : KeyMap α) (key : String) (value : α) : KeyMap α :=
  match m with
  | [] => [(key, value)]
  | (k, v) :: rest =>
    if k = key then (key, value) :: rest
    else if key < k then (key, value) :: (k, v) :: rest
    else (k, v) :: insert rest key value

/-- Removes a key. -/
def erase (m : KeyMap α) (key : String) : KeyMap α := m.filter (·.1 ≠ key)

/-- The map of a list of pairs; of two pairs with one key the later counts. -/
def ofList (entries : List (String × α)) : KeyMap α :=
  entries.foldl (fun m e => m.insert e.1 e.2) []

@[simp]
theorem get?_nil (key : String) : get? ([] : KeyMap α) key = none := rfl

theorem get?_insert (m : KeyMap α) (key other : String) (value : α) :
    (m.insert key value).get? other = if key = other then some value else m.get? other := by
  induction m with
  | nil => rfl
  | cons e rest ih =>
    obtain ⟨k, v⟩ := e
    unfold insert
    by_cases hk : k = key
    · subst hk
      by_cases ho : k = other <;> simp [get?, ho]
    · rw [if_neg hk]
      by_cases hlt : key < k
      · simp [get?, hlt]
      · by_cases ho : k = other
        · subst ho
          simp [get?, hlt, Ne.symm hk]
        · simp [get?, hlt, ho, ih]

end KeyMap

end Telemetry
