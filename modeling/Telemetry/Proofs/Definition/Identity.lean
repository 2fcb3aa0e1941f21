import Mathlib.Data.List.Nodup
import Mathlib.Data.List.Perm.Subperm
import Telemetry.Proofs.Definition.Store
import Telemetry.Proofs.Number.Decimal

/-!
# The identities of the definitions of a set

No two definitions of a set have one identity: a definition that is added gets one that is not
taken (`freeId_not_mem`). What is kept under the identity of a definition is therefore kept for
that definition alone.
-/

namespace Telemetry

namespace DefinitionSet

theorem numberedId_injective (base : String) : Function.Injective (numberedId base) := by
  intro m n h
  have hdigits : Text.decimalDigits m = Text.decimalDigits n := by
    have hlist := congrArg String.toList h
    simpa [numberedId] using hlist
  rw [← Decimal.value_decimalDigits m, hdigits, Decimal.value_decimalDigits]

/-- An identity that is taken all the same has every earlier one taken too. -/
theorem mem_of_freeNumberedId_mem {base : String} {taken : List String} {n fuel : Nat}
    (h : freeNumberedId base taken n fuel ∈ taken) :
    ∀ i ∈ List.range' n (fuel + 1), numberedId base i ∈ taken := by
  induction fuel generalizing n with
  | zero =>
    intro i hi
    rw [List.range'_one, List.mem_singleton] at hi
    rw [hi]
    exact h
  | succ fuel ih =>
    intro i hi
    rw [freeNumberedId] at h
    by_cases hn : taken.contains (numberedId base n) = true
    · rw [if_pos hn] at h
      rw [List.range'_succ] at hi
      rcases List.mem_cons.1 hi with rfl | hi
      · exact List.contains_iff_mem.1 hn
      · exact ih h i hi
    · rw [if_neg hn] at h
      exact absurd (List.contains_iff_mem.2 h) hn

/-- Among more identities than are taken, one is free. -/
theorem freeNumberedId_not_mem (base : String) {taken : List String} {n fuel : Nat}
    (hfuel : taken.length ≤ fuel) : freeNumberedId base taken n fuel ∉ taken := by
  intro h
  -- Otherwise `fuel + 1` different identities are among those that are taken.
  have hsubset : (List.range' n (fuel + 1)).map (numberedId base) ⊆ taken := by
    intro id hid
    obtain ⟨i, hi, rfl⟩ := List.mem_map.1 hid
    exact mem_of_freeNumberedId_mem h i hi
  have hnodup : ((List.range' n (fuel + 1)).map (numberedId base)).Nodup :=
    List.Nodup.map (numberedId_injective base) List.nodup_range'
  have hlength := (hnodup.subperm hsubset).length_le
  rw [List.length_map, List.length_range'] at hlength
  omega

theorem freeId_not_mem (base : String) (taken : List String) : freeId base taken ∉ taken := by
  rw [freeId]
  by_cases h : taken.contains base = true
  · rw [if_pos h]
    exact freeNumberedId_not_mem base (Nat.le_refl _)
  · rw [if_neg h]
    exact fun hmem ↦ h (List.contains_iff_mem.2 hmem)

/-- No two definitions have one identity. -/
def HasUniqueIds (set : DefinitionSet) : Prop := (set.definitions.map Definition.id).Nodup

theorem hasUniqueIds_empty : empty.HasUniqueIds := List.nodup_nil

theorem HasUniqueIds.eq_of_id_eq {set : DefinitionSet} (h : set.HasUniqueIds)
    {d d' : Definition} (hd : d ∈ set.definitions) (hd' : d' ∈ set.definitions)
    (hid : d.id = d'.id) : d = d' :=
  List.inj_on_of_nodup_map h hd hd' hid

theorem HasUniqueIds.add {set : DefinitionSet} (h : set.HasUniqueIds) (raw : RawDefinition) :
    (set.add raw).HasUniqueIds := by
  rw [DefinitionSet.add]
  cases Definition.ofRaw raw with
  | error e => exact h
  | ok d =>
    rw [HasUniqueIds]
    simp only [List.map_append, List.map_cons, List.map_nil]
    rw [List.nodup_append']
    refine ⟨h, List.nodup_singleton _, ?_⟩
    rw [List.disjoint_singleton]
    exact freeId_not_mem _ _

/-- A set comes about from nothing, one definition or problem after the other. -/
inductive IsBuilt : DefinitionSet → Prop where
  | empty : IsBuilt .empty
  | add {set : DefinitionSet} (raw : RawDefinition) : IsBuilt set → IsBuilt (set.add raw)
  | addProblem {set : DefinitionSet} (problem : String) :
      IsBuilt set → IsBuilt (set.addProblem problem)

theorem IsBuilt.hasUniqueIds {set : DefinitionSet} (h : set.IsBuilt) : set.HasUniqueIds := by
  induction h with
  | empty => exact hasUniqueIds_empty
  | add raw _ ih => exact ih.add raw
  | addProblem problem _ ih => exact ih

theorem IsBuilt.addAll {set : DefinitionSet} (h : set.IsBuilt) (raws : List RawDefinition) :
    (set.addAll raws).IsBuilt := by
  induction raws generalizing set with
  | nil => exact h
  | cons raw raws ih => exact ih (.add raw h)

theorem isBuilt_ofRaw (raws : List RawDefinition) : (ofRaw raws).IsBuilt :=
  IsBuilt.empty.addAll raws

end DefinitionSet

namespace DefinitionStore

variable [TomlFaults] (fs : Files)

theorem isBuilt_load (store : DefinitionStore) : (store.load fs).2.IsBuilt :=
  load_induction fs .empty (fun _ raw ↦ .add raw) (fun _ problem ↦ .addProblem problem) store

/-- The definitions that a load gives have identities of their own. -/
theorem hasUniqueIds_load (store : DefinitionStore) : (store.load fs).2.HasUniqueIds :=
  (isBuilt_load fs store).hasUniqueIds

/-- The definitions that a reload gives have identities of their own. -/
theorem hasUniqueIds_reload {store : DefinitionStore} {force : Bool} {set : DefinitionSet}
    (h : (store.reload fs force).2 = some set) : set.HasUniqueIds := by
  obtain ⟨-, rfl⟩ := reload_of_some fs h
  exact hasUniqueIds_load fs _

end DefinitionStore

end Telemetry
