import Telemetry.Proofs.Command.Agreement
import Telemetry.Proofs.Settings.Sections

/-!
# Definitions that are for some targets only

A definition may list the targets that it is for. The names of the targets come from the keys of a
settings file, which are kept in small letters, and the list is kept as it was written. The two meet
when the plan is made, where they are compared as they are.

So a definition that lists a target as the section of the target is written is planned for it
exactly when that name is in small letters (`Settings.plansListed_iff`).
-/

namespace Telemetry

namespace Definition

/-- A definition is for a target that it lists. -/
theorem isEnabledFor_of_mem {d : Definition} {names : List String} (h : d.databases = some names)
    {name : String} : d.isEnabledFor name = true ↔ name ∈ names := by
  rw [isEnabledFor, h]
  exact List.contains_iff_mem

end Definition

/-! ## A definition for one target -/

/-- A definition with no labels that lists one target. -/
def RawDefinition.listing (name : String) : RawDefinition where
  context := "c"
  help := [("v", "")]
  request := "q"
  databases := some [name]

/-- The definition is accepted, and lists the target as it was written. -/
theorem Definition.ofRaw_listing (name : String) : ofRaw (.listing name) = .ok {
    id := "c", context := "c", labels := [], columns := [⟨"v", "", .gauge, []⟩]
    fieldToAppend := none, request := "q", ignoreZeroResult := false
    queryTimeout := none, scrapeInterval := none, databases := some [name] } := by
  have hcontext : Text.trim "c" = "c" := by decide
  have hrequest : Text.isAllBlank "q" = false := by decide
  have hkey : Text.lower "v" = "v" := by decide
  have hcolumns : columnsOf "c" (.listing name) [("v", "")] = .ok [⟨"v", "", .gauge, []⟩] := by
    rw [columnsOf, columnOf, hkey]
    rfl
  rw [ofRaw]
  dsimp only [RawDefinition.listing] at hcolumns ⊢
  simp only [hcontext, hrequest, hcolumns]
  rfl

theorem DefinitionSet.exists_listing (name : String) :
    ∃ set : DefinitionSet, set.IsWritten ∧
      ∃ d ∈ set.definitions, d.databases = some [name] ∧ d.labels = [] := by
  have hempty : empty.IsWritten := nofun
  refine ⟨empty.add (.listing name), hempty.add _, ?_⟩
  rw [add, Definition.ofRaw_listing]
  exact ⟨_, List.mem_singleton_self _, rfl, rfl⟩

namespace Settings

/-- Of any accepted definitions, those that list a name as it is written are planned for the target
with that name in small letters, where their labels fit it. -/
def PlansListed (s : Settings) (name : String) (t : TargetSettings) : Prop :=
  ∀ set : DefinitionSet, set.IsWritten → ∀ d ∈ set.definitions, ∀ names,
    d.databases = some names → name ∈ names → d.FitsBehind s.metrics.databaseLabel t →
      d ∈ (s.plan set).definitionsFor (Text.lower name)

/-- A list finds a target under its written name only if that is in small letters. -/
theorem plansListed_iff_lower {s : Settings} (hkeys : s.WellKeyed) {name : String}
    {t : TargetSettings} (ht : (Text.lower name, t) ∈ s.targets) :
    s.PlansListed name t ↔ Text.lower name = name := by
  constructor
  · intro hplans
    obtain ⟨set, hset, d, hd, hlist, hlabels⟩ := DefinitionSet.exists_listing name
    have hfits : d.FitsBehind s.metrics.databaseLabel t := by
      constructor <;> simp [hlabels]
    have hplanned := hplans set hset d hd [name] hlist (List.mem_singleton_self name) hfits
    have henabled := ((mem_plan_iff hkeys ht).1 hplanned).2.1
    exact List.mem_singleton.1 ((Definition.isEnabledFor_of_mem hlist).1 henabled)
  · intro hlower set _ d hd names hlist hname hfits
    refine (mem_plan_iff hkeys ht).2 ⟨hd, ?_, hfits⟩
    rw [Definition.isEnabledFor_of_mem hlist, hlower]
    exact hname

/-- Each section for a target in a settings file that is loaded makes a target with its name in
small letters, unless something replaces the table of the targets. The definitions that list it as
it is written are planned for that target exactly when it is written in small letters. -/
theorem plansListed_iff {fs : Files} {environment : KeyMap String} {here path : String}
    {s : Settings} (hload : load fs environment here path = .ok s) {file : Setting.Entries}
    (hfile : SettingsFile.layer fs here path = .ok file) {name : String}
    (hsection : Setting.hasSection "targets" name file = true) :
    ((∀ e ∈ file ++ environmentLayer environment, Setting.replaces "targets" e = false) →
        ∃ t, (Text.lower name, t) ∈ s.targets) ∧
      ∀ t, (Text.lower name, t) ∈ s.targets → (s.PlansListed name t ↔ Text.lower name = name) := by
  obtain ⟨found, hfound, hlayers⟩ := load_eq_ok_iff.1 hload
  obtain rfl : found = file := Except.ok.inj (hfound.symm.trans hfile)
  exact ⟨exists_target_of_hasSection hlayers hsection,
    fun t ht ↦ plansListed_iff_lower (wellKeyed_of_load hload).2 ht⟩

/-! ### One section

A settings file with one target, and a definition that lists the target as its section does. -/

/-- A settings file with a section for a target, and a file with a definition that lists it. -/
def oneSectionFiles (name : String) : Files :=
  (Files.empty.write "dbmon.toml" (Utf8.encode
    ("[metrics]\ncustom = [\"a.toml\"]\n[targets." ++ name ++ "]\nurl = \"postgres://h/db\"\n"))
      ).write "a.toml" (Utf8.encode
        ("[[metric]]\ncontext = \"c\"\nlabels = []\nmetricsdesc.v = \"\"\nrequest = \"q\"\n" ++
          "databases = [\"" ++ name ++ "\"]\n"))

/-- The settings of a file with one section, for a name in small letters. -/
def oneSectionSettings (name : String) : Settings where
  metrics := { custom := ["a.toml"] }
  targets := [(name, { url := "postgres://h/db" })]

/-- A section in small letters is found. -/
theorem plansListed_primary :
    load (oneSectionFiles "primary") [] "" "dbmon.toml" = .ok (oneSectionSettings "primary") ∧
      (oneSectionSettings "primary").PlansListed "primary" { url := "postgres://h/db" } := by
  have hload : load (oneSectionFiles "primary") [] "" "dbmon.toml" =
      .ok (oneSectionSettings "primary") := by
    decide +kernel
  obtain ⟨file, hfile, -⟩ := load_eq_ok_iff.1 hload
  have hsection : (SettingsFile.layer (oneSectionFiles "primary") "" "dbmon.toml").map
      (Setting.hasSection "targets" "primary") = .ok true := by
    decide +kernel
  rw [hfile] at hsection
  have htarget : (Text.lower "primary", ({ url := "postgres://h/db" } : TargetSettings)) ∈
      (oneSectionSettings "primary").targets := by
    decide +kernel
  have hiff := (plansListed_iff hload hfile (Except.ok.inj hsection)).2 _ htarget
  exact ⟨hload, hiff.2 (by decide +kernel)⟩

/-- A section with a capital makes a target in small letters, for which the definition that lists
the section as it is written is not planned. -/
theorem not_planned_capital :
    load (oneSectionFiles "Primary") [] "" "dbmon.toml" = .ok (oneSectionSettings "primary") ∧
      (SettingsFile.layer (oneSectionFiles "Primary") "" "dbmon.toml").map
        (Setting.hasSection "targets" "Primary") = .ok true ∧
      (∃ d ∈ ((oneSectionSettings "primary").definitions (oneSectionFiles "Primary")).definitions,
        d.databases = some ["Primary"] ∧
          d.FitsBehind "database" { url := "postgres://h/db" }) ∧
      (Exporter.ofSettings (oneSectionSettings "primary") Rehearsal.server
        (oneSectionFiles "Primary") (fun _ ↦ {})).scraper.plan.definitionsFor "primary" = [] := by
  refine ⟨by decide +kernel, by decide +kernel, by decide +kernel, by decide +kernel⟩

end Settings

end Telemetry
