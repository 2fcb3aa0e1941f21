import Telemetry.Plan
import Telemetry.Proofs.Definition.Store
import Telemetry.Proofs.Outcome

/-!
# The labels of definitions

The labels of a definition are those that were written, in their order and in small letters, without
the column that names the metric (`DefinitionSet.IsWritten`). A definition is planned for a target
only if its labels neither repeat each other nor a constant label of the target, so behind the
constant labels they are all different (`Plan.nodup_labels`).
-/

namespace Telemetry

/-! ## Labels as they were written -/

/-- The labels of a definition as written: in small letters, without the column that names the
metric. -/
def RawDefinition.plainLabels (raw : RawDefinition) : List String :=
  (raw.labels.map Text.lower).filter fun label ↦ some label ≠ Definition.fieldOf raw.fieldToAppend

/-- What a definition that passed every check is made of. -/
theorem Definition.eq_of_ofRaw {raw : RawDefinition} {d : Definition} (h : ofRaw raw = .ok d) :
    raw.help ≠ [] ∧ ∃ columns queryTimeout scrapeInterval,
      columnsOf (Text.trim raw.context) raw raw.help = .ok columns ∧
      d = { id := Text.trim raw.context
            context := Text.trim raw.context
            labels := raw.plainLabels
            columns := columns
            fieldToAppend := fieldOf raw.fieldToAppend
            request := raw.request
            ignoreZeroResult := raw.ignoreZeroResult
            queryTimeout := queryTimeout
            scrapeInterval := scrapeInterval
            databases := raw.databases } := by
  rw [ofRaw] at h
  dsimp only at h
  split at h
  · cases h
  · split at h
    · cases h
    · next hhelp =>
      obtain ⟨columns, hcolumns, h⟩ := bind_eq_ok_iff.1 h
      obtain ⟨queryTimeout, -, h⟩ := bind_eq_ok_iff.1 h
      obtain ⟨scrapeInterval, -, h⟩ := bind_eq_ok_iff.1 h
      obtain rfl := Except.ok.inj h
      have hne : raw.help ≠ [] := fun hnil ↦ hhelp (List.isEmpty_iff.2 hnil)
      exact ⟨hne, columns, queryTimeout, scrapeInterval, hcolumns, rfl⟩

/-- A definition that passed every check has the labels that were written. -/
theorem Definition.labels_of_ofRaw {raw : RawDefinition} {d : Definition}
    (h : ofRaw raw = .ok d) : d.labels = raw.plainLabels := by
  obtain ⟨-, columns, queryTimeout, scrapeInterval, -, rfl⟩ := eq_of_ofRaw h
  rfl

namespace DefinitionSet

/-- Every definition of the set was written, and has an identity in the set. -/
def IsWritten (set : DefinitionSet) : Prop :=
  ∀ d ∈ set.definitions, ∃ raw id, Definition.ofRaw raw = .ok { d with id := id }

theorem IsWritten.labels {set : DefinitionSet} (h : set.IsWritten) {d : Definition}
    (hd : d ∈ set.definitions) : ∃ raw : RawDefinition, d.labels = raw.plainLabels ∧
      ∃ id, Definition.ofRaw raw = .ok { d with id := id } := by
  obtain ⟨raw, id, hraw⟩ := h d hd
  have hlabels : ({ d with id := id } : Definition).labels = raw.plainLabels :=
    Definition.labels_of_ofRaw hraw
  exact ⟨raw, hlabels, id, hraw⟩

theorem IsWritten.add {set : DefinitionSet} (h : set.IsWritten) (raw : RawDefinition) :
    (set.add raw).IsWritten := by
  rw [DefinitionSet.add]
  cases hraw : Definition.ofRaw raw with
  | error e => exact h
  | ok d =>
    intro d' hd'
    rcases List.mem_append.1 hd' with hd' | hd'
    · exact h d' hd'
    · obtain rfl := List.mem_singleton.1 hd'
      exact ⟨raw, d.id, hraw⟩

end DefinitionSet

namespace DefinitionStore

/-- Whatever a load gives was written in some source. -/
theorem isWritten_load [TomlFaults] (fs : Files) (store : DefinitionStore) :
    (store.load fs).2.IsWritten :=
  load_induction fs nofun (fun _ raw h ↦ h.add raw) (fun _ _ h ↦ h) store

end DefinitionStore

/-! ## Labels that are all different -/

namespace Definition

/-- No label is repeated exactly when all of them are different, and different from those before
them. -/
theorem repeatedLabel?_eq_none_iff {seen labels : List String} :
    repeatedLabel? seen labels = none ↔ labels.Nodup ∧ ∀ label ∈ labels, label ∉ seen := by
  induction labels generalizing seen with
  | nil => simp [repeatedLabel?]
  | cons label labels ih =>
    rw [repeatedLabel?, List.nodup_cons, List.forall_mem_cons]
    by_cases hseen : seen.contains label = true
    · rw [if_pos hseen]
      exact ⟨nofun, fun h ↦ absurd (List.contains_iff_mem.1 hseen) h.2.1⟩
    · rw [if_neg hseen, ih]
      rw [List.contains_iff_mem] at hseen
      constructor
      · rintro ⟨hnodup, hnew⟩
        refine ⟨⟨fun hmem ↦ hnew label hmem List.mem_cons_self, hnodup⟩, hseen, ?_⟩
        exact fun other hother hmem ↦ hnew other hother (List.mem_cons_of_mem label hmem)
      · rintro ⟨⟨hnot, hnodup⟩, -, hnew⟩
        refine ⟨hnodup, fun other hother hmem ↦ ?_⟩
        rcases List.mem_cons.1 hmem with rfl | hmem
        · exact hnot hother
        · exact hnew other hother hmem

/-- Behind constant labels that are all different, those of a definition that is not refused keep
them all different. -/
theorem nodup_append_labels {d : Definition} {target : String} {constant : List String}
    (hconstant : constant.Nodup) (h : (d.checkLabels target constant).toBool = true) :
    (constant ++ d.labels).Nodup := by
  rw [checkLabels] at h
  cases hrepeated : repeatedLabel? constant d.labels with
  | some label =>
    rw [hrepeated] at h
    cases h
  | none =>
    obtain ⟨hnodup, hnew⟩ := repeatedLabel?_eq_none_iff.1 hrepeated
    rw [List.nodup_append]
    exact ⟨hconstant, hnodup, fun label hmem other hother heq ↦ hnew other hother (heq ▸ hmem)⟩

end Definition

/-- The label with the name of a target comes first, and no other has its name. -/
theorem Target.nodup_labelNames_ofSettings (databaseLabel name : String) {settings : TargetSettings}
    (h : (settings.labels.map (·.1)).Nodup) :
    (ofSettings databaseLabel name settings).labelNames.Nodup := by
  rw [labelNames, ofSettings, List.map_cons, List.nodup_cons]
  constructor
  · intro hmem
    obtain ⟨label, hlabel, hname⟩ := List.mem_map.1 hmem
    exact absurd hname (by simpa using (List.mem_filter.1 hlabel).2)
  · exact h.sublist (List.filter_sublist.map _)

namespace Plan

/-- The definitions of a target are those of the set that it includes. -/
theorem definitionsFor_build_of_mem {set : DefinitionSet} {targets : List Target}
    (hnames : (targets.map (·.name)).Nodup) {target : Target} (hmem : target ∈ targets) :
    (build set targets).definitionsFor target.name = set.definitions.filter (includes target) := by
  have hkeys : ((build set targets).targets.map (·.1)).Nodup := by
    rw [build, List.map_map]
    exact hnames
  have hentry : (target.name, set.definitions.filter (includes target)) ∈
      (build set targets).targets :=
    List.mem_map_of_mem (f := fun t : Target ↦ (t.name, set.definitions.filter (includes t))) hmem
  rw [definitionsFor, (Keyed.get?_eq_some_iff hkeys).2 hentry, Option.getD_some]

theorem nodup_labels {set : DefinitionSet} {targets : List Target}
    (hnames : (targets.map (·.name)).Nodup) {target : Target} (hmem : target ∈ targets)
    (hconstant : target.labelNames.Nodup) {d : Definition}
    (hd : d ∈ (build set targets).definitionsFor target.name) :
    (target.labelNames ++ d.labels).Nodup := by
  rw [definitionsFor_build_of_mem hnames hmem, List.mem_filter, includes, Bool.and_eq_true] at hd
  exact Definition.nodup_append_labels hconstant hd.2.2

end Plan

end Telemetry
