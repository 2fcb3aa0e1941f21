import Telemetry.Command.Run
import Telemetry.Exporter.Basic
import Telemetry.Proofs.Definition.Collected
import Telemetry.Proofs.Definition.Labels
import Telemetry.Proofs.Settings.Keys
import Telemetry.Proofs.Tick.Labels
import Telemetry.Rehearsal

/-!
# What the check of a configuration leaves out

The command that checks a configuration reads the definitions as the exporter does at its start, and
succeeds when none of them was refused. Whether the labels of a definition can stand behind the
constant labels of a target is not asked then. It is asked when the plan is made, and a definition
whose labels cannot is left out of the plan of the target.

So a check that succeeds promises a complete plan exactly when every definition has labels that fit
all targets that it is for (`Command.plansAll_of_passes_iff`).
-/

namespace Telemetry

/-- The definitions that the sources of some settings hold. -/
def Settings.definitions (s : Settings) (fs : Files) : DefinitionSet :=
  ((DefinitionStore.ofSources s.metrics.definitionSources).load fs).2

/-- The settings of a file were checked, and their keys are different. -/
theorem Settings.wellKeyed_of_load {fs : Files} {environment : KeyMap String} {here path : String}
    {s : Settings} (h : load fs environment here path = .ok s) :
    s.check = .ok () ∧ s.WellKeyed := by
  rw [load] at h
  obtain ⟨found, -, h⟩ := bind_eq_ok_iff.1 h
  obtain ⟨text, -, h⟩ := bind_eq_ok_iff.1 h
  dsimp only at h
  split at h
  · cases h
  · rw [ofLayers] at h
    obtain ⟨read, hread, h⟩ := bind_eq_ok_iff.1 h
    obtain ⟨u, hcheck, h⟩ := bind_eq_ok_iff.1 h
    obtain rfl := Except.ok.inj h
    rw [mapError_eq_ok_iff] at hread hcheck
    exact ⟨hcheck, Setting.wellKeyed_of_toSettings hread⟩

/-! ## Labels that fit a target -/

/-- The labels of a definition can stand behind the constant labels of a target: no two of them are
one, and none has the name of a constant label. -/
structure Definition.FitsBehind (d : Definition) (databaseLabel : String) (t : TargetSettings) :
    Prop where
  distinct : d.labels.Nodup
  database : databaseLabel ∉ d.labels
  constant : ∀ key ∈ t.labels.map (·.1), key ∉ d.labels

instance (d : Definition) (databaseLabel : String) (t : TargetSettings) :
    Decidable (d.FitsBehind databaseLabel t) :=
  decidable_of_iff (d.labels.Nodup ∧ databaseLabel ∉ d.labels ∧
      ∀ key ∈ t.labels.map Prod.fst, key ∉ d.labels)
    ⟨fun h ↦ ⟨h.1, h.2.1, h.2.2⟩, fun h ↦ ⟨h.distinct, h.database, h.constant⟩⟩

theorem Target.mem_labelNames_ofSettings {databaseLabel name label : String}
    {settings : TargetSettings} :
    label ∈ (ofSettings databaseLabel name settings).labelNames ↔
      label = databaseLabel ∨ label ∈ settings.labels.map (·.1) := by
  rw [labelNames, ofSettings, List.map_cons, List.mem_cons]
  refine or_congr_right' fun hne ↦ ?_
  simp only [List.mem_map, List.mem_filter, decide_eq_true_eq]
  constructor
  · rintro ⟨e, ⟨he, -⟩, rfl⟩
    exact ⟨e, he, rfl⟩
  · rintro ⟨e, he, rfl⟩
    exact ⟨e, ⟨he, hne⟩, rfl⟩

/-- A definition is planned for the targets that it is for and that its labels fit. -/
theorem Plan.includes_ofSettings_iff {databaseLabel name : String} {settings : TargetSettings}
    {d : Definition} :
    includes (.ofSettings databaseLabel name settings) d = true ↔
      d.isEnabledFor name = true ∧ d.FitsBehind databaseLabel settings := by
  have hlabels : (d.checkLabels name
      (Target.ofSettings databaseLabel name settings).labelNames).toBool = true ↔
      Definition.repeatedLabel? (Target.ofSettings databaseLabel name settings).labelNames
        d.labels = none := by
    rw [Definition.checkLabels]
    cases Definition.repeatedLabel? _ d.labels with
    | none => simp [Except.toBool]
    | some label => simp [Except.toBool]
  rw [includes, Bool.and_eq_true]
  refine and_congr_right fun _ ↦ hlabels.trans ?_
  rw [Definition.repeatedLabel?_eq_none_iff]
  simp only [Target.mem_labelNames_ofSettings, not_or]
  constructor
  · rintro ⟨hdistinct, hnew⟩
    refine ⟨hdistinct, fun hmem ↦ (hnew _ hmem).1 rfl, ?_⟩
    intro key hkey hmem
    exact (hnew key hmem).2 hkey
  · rintro ⟨hdistinct, hdatabase, hconstant⟩
    refine ⟨hdistinct, fun label hmem ↦ ⟨?_, fun hkey ↦ hconstant label hkey hmem⟩⟩
    rintro rfl
    exact hdatabase hmem

/-- The plan of a set of definitions for the targets of some settings. -/
def Settings.plan (s : Settings) (set : DefinitionSet) : Plan :=
  .build set (s.targets.map fun e ↦ .ofSettings s.metrics.databaseLabel e.1 e.2)

/-- What is planned for a target of some settings. -/
theorem Settings.mem_plan_iff {s : Settings} (hkeys : s.WellKeyed) {set : DefinitionSet}
    {e : String × TargetSettings} (he : e ∈ s.targets) {d : Definition} :
    d ∈ (s.plan set).definitionsFor e.1 ↔
      d ∈ set.definitions ∧ d.isEnabledFor e.1 = true ∧
        d.FitsBehind s.metrics.databaseLabel e.2 := by
  have hmem := List.mem_map_of_mem (f := fun e : String × TargetSettings ↦
    Target.ofSettings s.metrics.databaseLabel e.1 e.2) he
  have hname : (Target.ofSettings s.metrics.databaseLabel e.1 e.2).name = e.1 := rfl
  rw [plan, ← hname, Plan.definitionsFor_build_of_mem hkeys.nodup_names hmem, List.mem_filter,
    Plan.includes_ofSettings_iff, hname]

namespace Command

section

variable [TomlFaults]

/-- The check of a configuration ends with success, whatever it says about faults on the way. -/
def Passes (fs : Files) (s : Settings) : Prop :=
  ∃ transcript, runTest fs s = .finished transcript ∧ transcript.code = 0

/-- The check asks no more than that no definition was refused and every source could be used. -/
theorem passes_iff {fs : Files} {s : Settings} :
    Passes fs s ↔ (s.definitions fs).problems = [] := by
  rw [← List.length_eq_zero_iff, Settings.definitions,
    (DefinitionStore.load_congr_faults _ ‹TomlFaults› fs _).2, List.length_eq_zero_iff,
    ← List.isEmpty_iff, Passes, runTest]
  dsimp only
  rw [Summary.failure?]
  by_cases hnone :
      ((DefinitionStore.ofSources s.metrics.definitionSources).load fs).2.problems.isEmpty = true
  · rw [if_pos hnone]
    exact iff_of_true ⟨_, rfl, rfl⟩ hnone
  · rw [if_neg hnone]
    refine iff_of_false ?_ hnone
    rintro ⟨transcript, h, hcode⟩
    obtain rfl := Outcome.finished.inj h
    cases hcode

end

variable {σ : Type}

/-- At its start the exporter plans for every target all definitions that are for it. -/
def PlansAll (s : Settings) (fs : Files) (server : Server σ) (database : String → σ) : Prop :=
  ∀ e ∈ s.targets, ∀ d ∈ (s.definitions fs).definitions, d.isEnabledFor e.1 = true →
    d ∈ (Exporter.ofSettings s server fs database).scraper.plan.definitionsFor e.1

/-- What the exporter plans for a target at its start. -/
theorem mem_definitionsFor_ofSettings_iff {s : Settings} (hkeys : s.WellKeyed) {fs : Files}
    {server : Server σ} {database : String → σ} {e : String × TargetSettings} (he : e ∈ s.targets)
    {d : Definition} :
    d ∈ (Exporter.ofSettings s server fs database).scraper.plan.definitionsFor e.1 ↔
      d ∈ (s.definitions fs).definitions ∧ d.isEnabledFor e.1 = true ∧
        d.FitsBehind s.metrics.databaseLabel e.2 := by
  have hplan : (Exporter.ofSettings s server fs database).scraper.plan =
      s.plan (s.definitions fs) :=
    congrArg (Plan.build (s.definitions fs)) List.map_map
  rw [hplan, Settings.mem_plan_iff hkeys he]

/-- A check that succeeds promises that everything is planned exactly when, unless something was
refused, the labels of every definition fit behind the constant labels of each target that it is
for. -/
theorem plansAll_of_passes_iff [TomlFaults] {s : Settings} (hkeys : s.WellKeyed) (fs : Files)
    (server : Server σ) (database : String → σ) :
    (Passes fs s → PlansAll s fs server database) ↔
      ((s.definitions fs).problems = [] →
        ∀ e ∈ s.targets, ∀ d ∈ (s.definitions fs).definitions, d.isEnabledFor e.1 = true →
          d.FitsBehind s.metrics.databaseLabel e.2) := by
  rw [passes_iff, PlansAll]
  refine imp_congr_right fun _ ↦ forall₂_congr fun e he ↦ forall₃_congr fun d hd henabled ↦ ?_
  rw [mem_definitionsFor_ofSettings_iff hkeys he, and_iff_right hd, and_iff_right henabled]

/-! ### One label

One target, and one definition with one label. -/

/-- A settings file with one target, and a file with a definition that has a label. -/
def oneLabelFiles (label : String) : Files :=
  (Files.empty.write "dbmon.toml" (Utf8.encode
    "[metrics]\ncustom = [\"a.toml\"]\n[targets.a]\nurl = \"postgres://h/db\"\n")).write "a.toml"
      (Utf8.encode ("[[metric]]\ncontext = \"c\"\nlabels = [\"" ++ label ++ "\"]\n" ++
        "metricsdesc.v = \"\"\nrequest = \"q\"\n"))

/-- The settings of the file. -/
def oneLabelSettings : Settings where
  metrics := { custom := ["a.toml"] }
  targets := [("a", { url := "postgres://h/db" })]

/-- A label with a name of its own is no obstacle. -/
theorem plansAll_of_passes_status :
    oneLabelSettings.WellKeyed ∧
      Passes (oneLabelFiles "status") oneLabelSettings ∧
      PlansAll oneLabelSettings (oneLabelFiles "status") Rehearsal.server (fun _ ↦ {}) := by
  have hload : Settings.load (oneLabelFiles "status") [] "" "dbmon.toml" =
      .ok oneLabelSettings := by
    decide +kernel
  have hkeys := (Settings.wellKeyed_of_load hload).2
  have hpasses : Passes (oneLabelFiles "status") oneLabelSettings :=
    passes_iff.2 (by decide +kernel)
  have hfits : ∀ e ∈ oneLabelSettings.targets,
      ∀ d ∈ (oneLabelSettings.definitions (oneLabelFiles "status")).definitions,
        d.isEnabledFor e.1 = true →
          d.FitsBehind oneLabelSettings.metrics.databaseLabel e.2 := by
    decide +kernel
  have hiff := plansAll_of_passes_iff hkeys (oneLabelFiles "status") Rehearsal.server (fun _ ↦ {})
  exact ⟨hkeys, hpasses, hiff.2 (fun _ ↦ hfits) hpasses⟩

/-- A label with the name of the label for the target passes the check, and its definition is
planned for no target. -/
theorem not_plansAll_database :
    Settings.load (oneLabelFiles "database") [] "" "dbmon.toml" = .ok oneLabelSettings ∧
      Passes (oneLabelFiles "database") oneLabelSettings ∧
      ¬ PlansAll oneLabelSettings (oneLabelFiles "database") Rehearsal.server (fun _ ↦ {}) := by
  refine ⟨by decide +kernel, passes_iff.2 (by decide +kernel), fun h ↦ ?_⟩
  have hempty : (Exporter.ofSettings oneLabelSettings Rehearsal.server (oneLabelFiles "database")
      (fun _ ↦ {})).scraper.plan.definitionsFor "a" = [] := by
    decide +kernel
  have hnone : ¬ ∀ d ∈ (oneLabelSettings.definitions (oneLabelFiles "database")).definitions,
      d.isEnabledFor "a" = true → d ∈ ([] : List Definition) := by
    decide +kernel
  have ha : ("a", { url := "postgres://h/db" }) ∈ oneLabelSettings.targets :=
    List.mem_singleton_self _
  exact hnone fun d hd henabled ↦ hempty ▸ h _ ha d hd henabled

end Command

end Telemetry
