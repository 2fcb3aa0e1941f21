import Mathlib.Data.List.Induction
import Mathlib.Data.List.Nodup
import Mathlib.Data.List.Perm.Basic
import Telemetry.Exposition

/-!
# Families of observations

Observations are placed one after the other: each joins the family of its name or starts one behind
the others. So a family holds the observations of its name in their order, and the first of them
gave it its help text and its kind (`gathers_of_mem_group`). There is one family for each name, and
the families together hold the observations and nothing else (`perm_metrics_group`).
-/

namespace Telemetry.MetricFamily

variable {families : List MetricFamily} {f : MetricFamily} {o : Observation}
  {observations : List Observation}

/-! ## Placing one observation -/

/-- A family that an observation starts. -/
def start (o : Observation) : MetricFamily := (opened o).join o

/-- Adds an observation to the first family of its name, or starts one behind the others. -/
def place (families : List MetricFamily) (o : Observation) : List MetricFamily :=
  match families with
  | [] => [start o]
  | f :: rest => if f.name = o.name then f.join o :: rest else f :: place rest o

theorem names_place (families : List MetricFamily) (o : Observation) :
    (place families o).map (·.name) =
      if o.name ∈ families.map (·.name) then families.map (·.name)
      else families.map (·.name) ++ [o.name] := by
  induction families with
  | nil => rfl
  | cons f families ih =>
    rw [place]
    by_cases hf : f.name = o.name
    · rw [if_pos hf, if_pos (by rw [← hf]; exact List.mem_cons_self)]
      rfl
    · rw [if_neg hf, List.map_cons, List.map_cons, ih]
      by_cases hmem : o.name ∈ families.map (·.name)
      · rw [if_pos hmem, if_pos (List.mem_cons_of_mem _ hmem)]
      · rw [if_neg hmem, if_neg (by simp [Ne.symm hf, hmem]), List.cons_append]

/-- A family of the list is one from before, one that was joined, or a new one. -/
theorem of_mem_place (hnodup : (families.map (·.name)).Nodup) (h : f ∈ place families o) :
    (f ∈ families ∧ f.name ≠ o.name) ∨ (∃ g ∈ families, g.name = o.name ∧ f = g.join o) ∨
      (o.name ∉ families.map (·.name) ∧ f = start o) := by
  induction families with
  | nil => exact .inr (.inr ⟨List.not_mem_nil, List.mem_singleton.1 h⟩)
  | cons g families ih =>
    rw [List.map_cons, List.nodup_cons] at hnodup
    rw [place] at h
    by_cases hg : g.name = o.name
    · rw [if_pos hg] at h
      rcases List.mem_cons.1 h with rfl | h
      · exact .inr (.inl ⟨g, List.mem_cons_self, hg, rfl⟩)
      · refine .inl ⟨List.mem_cons_of_mem g h, fun hf ↦ hnodup.1 ?_⟩
        rw [hg, ← hf]
        exact List.mem_map_of_mem h
    · rw [if_neg hg] at h
      rcases List.mem_cons.1 h with rfl | h
      · exact .inl ⟨List.mem_cons_self, hg⟩
      · rcases ih hnodup.2 h with ⟨hf, hname⟩ | ⟨g', hg', hjoin⟩ | ⟨hnew, hstart⟩
        · exact .inl ⟨List.mem_cons_of_mem g hf, hname⟩
        · exact .inr (.inl ⟨g', List.mem_cons_of_mem g hg', hjoin⟩)
        · exact .inr (.inr ⟨by simp [Ne.symm hg, hnew], hstart⟩)

theorem perm_metrics_place (families : List MetricFamily) (o : Observation) :
    ((place families o).flatMap (·.metrics)).Perm (families.flatMap (·.metrics) ++ [o]) := by
  induction families with
  | nil => exact .refl _
  | cons f families ih =>
    rw [place]
    by_cases hf : f.name = o.name
    · rw [if_pos hf, List.flatMap_cons, List.flatMap_cons, join, List.append_assoc,
        List.append_assoc]
      exact List.perm_append_comm.append_left _
    · rw [if_neg hf, List.flatMap_cons, List.flatMap_cons, List.append_assoc]
      exact ih.append_left _

/-! ## Slots -/

/-- The place of an observation is behind the others, or where the first family of its name is. -/
theorem place_eq (families : List MetricFamily) (o : Observation) :
    place families o = match families.findIdx? (·.name = o.name) with
      | some slot => families.modify slot (·.join o)
      | none => families ++ [start o] := by
  induction families with
  | nil => rfl
  | cons f families ih =>
    rw [place, List.findIdx?_cons]
    by_cases hf : f.name = o.name
    · rw [if_pos hf, if_pos (decide_eq_true hf)]
      rfl
    · rw [if_neg hf, if_neg (by simpa using hf), ih]
      cases families.findIdx? (·.name = o.name) with
      | none => rfl
      | some slot => rfl

/-- An observation takes no other name to another family, and its own one to the last if it had
none. -/
theorem findIdx?_place (families : List MetricFamily) (o : Observation) (name : String) :
    (place families o).findIdx? (·.name = name) =
      (families.findIdx? (·.name = name)).or
        (if o.name = name then some families.length else none) := by
  induction families with
  | nil =>
    rw [place, List.findIdx?_cons]
    by_cases hname : o.name = name
    · simp [start, opened, join, hname]
    · simp [start, opened, join, hname]
  | cons f families ih =>
    rw [place, List.findIdx?_cons]
    by_cases hf : f.name = o.name
    · have hjoin : (f.join o).name = f.name := rfl
      rw [if_pos hf, List.findIdx?_cons, hjoin]
      by_cases hname : f.name = name
      · rw [if_pos (decide_eq_true hname), Option.some_or]
      · rw [if_neg fun h : o.name = name ↦ hname (hf.trans h), Option.or_none]
    · rw [if_neg hf, List.findIdx?_cons, ih]
      by_cases hname : f.name = name
      · rw [if_pos (decide_eq_true hname), if_pos (decide_eq_true hname), Option.some_or]
      · have hskip : ¬ decide (f.name = name) = true := by simpa using hname
        rw [if_neg hskip, if_neg hskip]
        by_cases ho : o.name = name
        · rw [if_pos ho, if_pos ho]
          cases families.findIdx? (·.name = name) with
          | none => rfl
          | some slot => rfl
        · rw [if_neg ho, if_neg ho, Option.or_none, Option.or_none]

/-- The slots are those of the names: the first family of a name is in the slot of the name. -/
def Table.InStep (t : Table) : Prop :=
  ∀ name, Keyed.get? t.slots name = t.families.findIdx? (·.name = name)

theorem Table.InStep.families_add {t : Table} (h : t.InStep) (o : Observation) :
    (t.add o).families = place t.families o := by
  have hlast : (t.families ++ [opened o]).modify t.families.length (·.join o) =
      t.families ++ [start o] := by
    induction t.families with
    | nil => rfl
    | cons f families ih =>
      rw [List.cons_append, List.length_cons, List.modify_succ_cons, ih, List.cons_append]
  rw [place_eq, ← h, add, slotFor]
  cases Keyed.get? t.slots o.name with
  | some slot => rfl
  | none => exact hlast

theorem Table.InStep.add {t : Table} (h : t.InStep) (o : Observation) : (t.add o).InStep := by
  intro name
  rw [h.families_add, findIdx?_place, ← h, Table.add, slotFor]
  cases hslot : Keyed.get? t.slots o.name with
  | some slot =>
    by_cases hname : o.name = name
    · rw [← hname, hslot, Option.some_or]
    · rw [if_neg hname, Option.or_none]
  | none =>
    dsimp only
    rw [Keyed.get?_put]
    by_cases hname : o.name = name
    · rw [if_pos hname, if_pos hname, ← hname, hslot, Option.none_or]
    · rw [if_neg hname, if_neg hname, Option.or_none]

theorem Table.inStep_foldl (observations : List Observation) :
    (observations.foldl Table.add .empty).InStep := by
  induction observations using List.reverseRecOn with
  | nil => exact fun name ↦ rfl
  | append_singleton observations o ih =>
    rw [List.foldl_append]
    exact ih.add o

/-! ## All families -/

theorem group_append (observations : List Observation) (o : Observation) :
    group (observations ++ [o]) = place (group observations) o := by
  rw [group, List.foldl_append]
  exact (Table.inStep_foldl observations).families_add o

theorem nodup_names_group (observations : List Observation) :
    ((group observations).map (·.name)).Nodup := by
  induction observations using List.reverseRecOn with
  | nil => exact List.nodup_nil
  | append_singleton observations o ih =>
    rw [group_append, names_place]
    split
    · exact ih
    · next hnew =>
      rw [List.nodup_append']
      exact ⟨ih, List.nodup_singleton _, List.disjoint_singleton.2 hnew⟩

theorem mem_names_group {name : String} :
    name ∈ (group observations).map (·.name) ↔ name ∈ observations.map (·.name) := by
  induction observations using List.reverseRecOn with
  | nil => exact Iff.rfl
  | append_singleton observations o ih =>
    rw [group_append, names_place, List.map_append, List.mem_append, ← ih]
    split
    · next hmem =>
      refine ⟨.inl, fun h ↦ h.elim id fun h ↦ ?_⟩
      rw [List.mem_singleton.1 h]
      exact hmem
    · exact List.mem_append

/-- The families hold the observations, and nothing else. -/
theorem perm_metrics_group (observations : List Observation) :
    ((group observations).flatMap (·.metrics)).Perm observations := by
  induction observations using List.reverseRecOn with
  | nil => exact .refl _
  | append_singleton observations o ih =>
    rw [group_append]
    exact (perm_metrics_place _ o).trans (ih.append_right [o])

/-- The family holds the observations of its name, and the first of them started it. -/
structure Gathers (f : MetricFamily) (observations : List Observation) : Prop where
  metrics : f.metrics = observations.filter (·.name = f.name)
  started : ∃ first rest, f.metrics = first :: rest ∧ f.help = first.help ∧ f.kind = first.kind

theorem Gathers.join (h : f.Gathers observations) (ho : f.name = o.name) :
    (f.join o).Gathers (observations ++ [o]) where
  metrics := by
    have hkept : [o].filter (·.name = f.name) = [o] :=
      List.filter_cons_of_pos (decide_eq_true ho.symm)
    rw [List.filter_append]
    change f.metrics ++ [o] = observations.filter (·.name = f.name) ++ [o].filter (·.name = f.name)
    rw [hkept, ← h.metrics]
  started := by
    obtain ⟨first, rest, hmetrics, hfirst⟩ := h.started
    refine ⟨first, rest ++ [o], ?_, hfirst⟩
    rw [MetricFamily.join, hmetrics]
    rfl

theorem Gathers.of_ne (h : f.Gathers observations) (ho : f.name ≠ o.name) :
    f.Gathers (observations ++ [o]) where
  metrics := by
    rw [List.filter_append, List.filter_cons_of_neg (by simpa using ho.symm), List.filter_nil,
      List.append_nil]
    exact h.metrics
  started := h.started

theorem gathers_start (h : o.name ∉ observations.map (·.name)) :
    (start o).Gathers (observations ++ [o]) where
  metrics := by
    have hnone : observations.filter (·.name = o.name) = [] := by
      rw [List.filter_eq_nil_iff]
      intro o' ho' hname
      exact h (List.mem_map.2 ⟨o', ho', of_decide_eq_true hname⟩)
    rw [List.filter_append]
    change [o] = observations.filter (·.name = o.name) ++ [o].filter (·.name = o.name)
    rw [hnone, List.filter_cons_of_pos (by simp)]
    rfl
  started := ⟨o, [], rfl, rfl, rfl⟩

theorem gathers_of_mem_group (h : f ∈ group observations) : f.Gathers observations := by
  induction observations using List.reverseRecOn generalizing f with
  | nil => cases h
  | append_singleton observations o ih =>
    rw [group_append] at h
    rcases of_mem_place (nodup_names_group observations) h with
      ⟨hf, hname⟩ | ⟨g, hg, hname, rfl⟩ | ⟨hnew, rfl⟩
    · exact (ih hf).of_ne hname
    · exact (ih hg).join hname
    · rw [mem_names_group] at hnew
      exact gathers_start hnew

end Telemetry.MetricFamily
