import Telemetry.Proofs.Scrape.Series
import Telemetry.Proofs.Settings.Keys
import Telemetry.Proofs.Tick.Answers

/-!
# The labels of what is published

Every observation begins with the constant labels of its target, the name of the target first, and
goes on with the labels of its definition as they were written. No two of them have one name, and an
observation has the data of a histogram exactly when it is one (`Ran.tick_labels`).

That names are different is decided when the plan is made, for each target on its own. It goes on
holding for what the cache serves, because what is in the cache was computed for the same target and
for a definition of the same plan (`Refines.sound`). The order of the labels comes from the row that
an observation was made of (`Observation.IsOf`), and a history remembers it of every tick
(`Ran.isMadeOfRows`).
-/

namespace Telemetry

/-! ## One observation -/

namespace Observation

/-- No two labels have one name, and the data of a histogram is there exactly for a histogram. -/
structure IsWellFormed (o : Observation) : Prop where
  distinct : (o.labels.map (·.1)).Nodup
  histogram : o.histogram.isSome = true ↔ o.kind = .histogram

theorem IsOf.isWellFormed {constant : List (String × String)} {d : Definition} {o : Observation}
    (h : o.IsOf constant d) (hnodup : (constant.map (·.1) ++ d.labels).Nodup) :
    o.IsWellFormed := by
  obtain ⟨⟨row, hlabels⟩, hhistogram⟩ := h
  refine ⟨?_, hhistogram⟩
  rw [hlabels, List.map_append, List.map_map]
  rwa [← List.map_id d.labels] at hnodup

end Observation

namespace Scrape

variable {row : Row} {d : Definition} {namespaceName : String}
  {constant : List (String × String)} {o : Observation}

/-- Whatever a query brings is made of its rows. -/
theorem exists_row_of_mem_ofReply {reply : Reply (List Row)} {default : Duration}
    (h : o ∈ (Computation.mk d (ofReply reply d namespaceName constant default)).observations) :
    ∃ row, o ∈ convertRow row d namespaceName constant := by
  rw [observations_ofReply] at h
  obtain ⟨row, -, hrow⟩ := List.mem_flatMap.1 h
  exact ⟨row, hrow⟩

end Scrape

/-- That a target is up is published with its constant labels alone. -/
theorem Tick.isWellFormed_upObservation {target : Target} (h : target.labelNames.Nodup)
    (namespaceName : String) (up : Bool) :
    (upObservation namespaceName target up).IsWellFormed :=
  ⟨h, by simp [upObservation, Observation.gauge]⟩

/-! ## Targets with settings -/

namespace Settings.WellKeyed

variable {s : Settings}

theorem nodup_names (h : s.WellKeyed) :
    ((s.targets.map fun e ↦ Target.ofSettings s.metrics.databaseLabel e.1 e.2).map
      (·.name)).Nodup := by
  rw [List.map_map]
  exact h.targets

theorem nodup_labelNames (h : s.WellKeyed) :
    ∀ target ∈ s.targets.map fun e ↦ Target.ofSettings s.metrics.databaseLabel e.1 e.2,
      target.labelNames.Nodup := by
  rw [List.forall_mem_map]
  exact fun e he ↦ Target.nodup_labelNames_ofSettings s.metrics.databaseLabel e.1 (h.labels e he)

end Settings.WellKeyed

/-! ## A history -/

/-- What was computed in a tick was made of rows, for the targets that it was computed for. -/
def TickRecord.IsMadeOfRows (namespaceName : String) (targets : List Target) (r : TickRecord) :
    Prop :=
  ∀ c ∈ r.contributions, c.target ∈ targets ∧
    ∀ k ∈ c.fresh, ∀ o ∈ k.observations,
      ∃ row, o ∈ Scrape.convertRow row k.definition namespaceName c.target.labels

/-- What is computed for a target is made of rows. -/
theorem Tick.exists_row_of_mem_fresh {σ : Type} {server : Clocked σ} {limits : ConnectionLimits}
    {namespaceName : String} {plan : Plan} {cache : MetricCache} {started : Instant}
    {connection : Connection σ} {k : Computation}
    (hk : k ∈ (scrapeTarget server limits namespaceName plan cache started
      connection).result.fresh) {o : Observation} (ho : o ∈ k.observations) :
    ∃ row, o ∈ Scrape.convertRow row k.definition namespaceName connection.target.labels := by
  rcases scrapeTarget_cases server limits namespaceName plan cache started connection with
    h | ⟨-, h⟩
  · rw [h] at hk
    cases hk
  · rw [h, scrapeSession, connection.target_check server limits started] at hk
    obtain ⟨e, -, rfl⟩ := List.mem_map.1 hk
    exact Scrape.exists_row_of_mem_ofReply ho

namespace Scraper

variable {σ : Type} {server : Clocked σ} {limits : ConnectionLimits} {namespaceName : String}
  {targets : List Target} {history : List TickRecord} {t : TickState σ}

variable (server limits namespaceName) in
theorem isMadeOfRows_record (htargets : t.connections.map (·.target) = targets) (fs : Files) :
    (record server limits namespaceName fs t).IsMadeOfRows namespaceName targets := by
  intro c hc
  obtain ⟨connection, hconnection, rfl⟩ :=
    (mem_contributions_record server limits namespaceName).1 hc
  have hbelongs := (Tick.scrapedFrom_scrapeTarget server limits namespaceName
    (reloaded namespaceName fs t).plan (reloaded namespaceName fs t).cache t.now connection).belongs
  constructor
  · exact hbelongs ▸ htargets ▸ List.mem_map_of_mem hconnection
  · intro k hk o ho
    exact hbelongs ▸ Tick.exists_row_of_mem_fresh hk ho

theorem Ran.isMadeOfRows (hnames : (targets.map (·.name)).Nodup)
    (h : Ran server limits namespaceName targets history t) :
    ∀ r ∈ history, r.IsMadeOfRows namespaceName targets := by
  induction h with
  | start => exact nofun
  | between _ _ _ _ ih => exact ih
  | tick hran fs ih =>
    intro r hr
    rcases List.mem_cons.1 hr with rfl | hr
    · exact isMadeOfRows_record server limits namespaceName (hran.faithful hnames).attached fs
    · exact ih r hr

/-- The definitions of the plan were written in some source. -/
theorem Ran.isWritten (hnames : (targets.map (·.name)).Nodup)
    (h : Ran server limits namespaceName targets history t) :
    ∃ set : DefinitionSet, t.scraper.plan = .build set targets ∧ set.IsWritten := by
  induction h with
  | start fs sources => exact ⟨_, rfl, DefinitionStore.isWritten_load fs _⟩
  | between _ hscraper _ _ ih =>
    rcases hscraper with hscraper | hscraper
    · rw [hscraper]
      exact ih
    · rw [hscraper]
      exact ih
  | @tick history t hran fs ih =>
    change ∃ set : DefinitionSet, (reloaded namespaceName fs t).plan = .build set targets ∧ _
    rw [reloaded]
    cases hset : (t.scraper.store.reload fs t.scraper.reloadRequested).2 with
    | none =>
      rw [(reload_of_none namespaceName hset _ t.meters).1]
      exact ih
    | some set =>
      obtain ⟨-, hload⟩ := DefinitionStore.reload_of_some fs hset
      rw [(reload_of_some namespaceName hset _ t.meters).1, (hran.faithful hnames).attached]
      exact ⟨set, rfl, hload ▸ DefinitionStore.isWritten_load fs _⟩

/-- What is published for a definition was made of rows for its own target, whether it was computed
in this tick or in an earlier one. -/
theorem Ran.exists_row_of_mem_publishes (hnames : (targets.map (·.name)).Nodup)
    (h : Ran server limits namespaceName targets history t) (fs : Files) {c : Contribution}
    (hc : c ∈ (record server limits namespaceName fs t).contributions) {d : Definition}
    (hd : d ∈ (reloaded namespaceName fs t).plan.definitionsFor c.target.name) {o : Observation}
    (ho : o ∈ c.publishes (reloaded namespaceName fs t).cache d) :
    ∃ row, o ∈ Scrape.convertRow row d namespaceName c.target.labels := by
  have hfaithful := h.faithful hnames
  have hmade := isMadeOfRows_record server limits namespaceName hfaithful.attached fs c hc
  rcases c.cases_of_mem_publishes ho with ⟨k, hk, rfl, hmem⟩ | ⟨cached, hcached, hmem⟩
  · exact hmade.2 k hk o hmem
  · -- The record is what an earlier tick computed, for the same target.
    obtain ⟨-, hrefines⟩ := hfaithful.begun server limits namespaceName fs
    obtain ⟨r, hlast, -⟩ := hrefines.sound c.target.name d cached hd hcached
    have hr : r ∈ history := TickRecord.mem_of_mem_known hlast.mem
    obtain ⟨c', hc', hname, k, hk, rfl, hsuccess⟩ := hlast.computed
    obtain ⟨htarget, hall⟩ := h.isMadeOfRows hnames r hr c' hc'
    have hsame : c'.target = c.target :=
      List.inj_on_of_nodup_map hnames htarget hmade.1 hname
    rw [← hsame]
    exact hall k hk o (by rwa [k.observations_eq, hsuccess, Option.getD_some])

theorem Ran.isOf_of_mem_publishes (hnames : (targets.map (·.name)).Nodup)
    (h : Ran server limits namespaceName targets history t) (fs : Files) {c : Contribution}
    (hc : c ∈ (record server limits namespaceName fs t).contributions) {d : Definition}
    (hd : d ∈ (reloaded namespaceName fs t).plan.definitionsFor c.target.name) {o : Observation}
    (ho : o ∈ c.publishes (reloaded namespaceName fs t).cache d) : o.IsOf c.target.labels d := by
  obtain ⟨row, hrow⟩ := h.exists_row_of_mem_publishes hnames fs hc hd ho
  exact Scrape.isOf_of_mem_convertRow hrow

/-- Names that are different for the target are different in all that is published of it. -/
theorem Ran.isWellFormed_of_mem (hnames : (targets.map (·.name)).Nodup)
    (hconstant : ∀ target ∈ targets, target.labelNames.Nodup)
    (h : Ran server limits namespaceName targets history t) (fs : Files) {c : Contribution}
    (hc : c ∈ (record server limits namespaceName fs t).contributions) {o : Observation}
    (ho : o ∈ c.observations namespaceName) : o.IsWellFormed := by
  have hfaithful := h.faithful hnames
  obtain ⟨⟨set, hplan, -⟩, -⟩ := hfaithful.begun server limits namespaceName fs
  obtain ⟨htarget, -⟩ := isMadeOfRows_record server limits namespaceName hfaithful.attached fs c hc
  have hparts := (hfaithful.publishedBy server limits namespaceName hnames fs).parts c hc
  rcases List.mem_cons.1 (hparts.mem_iff.1 ho) with rfl | ho
  · exact Tick.isWellFormed_upObservation (hconstant c.target htarget) namespaceName c.up
  · obtain ⟨d, hd, ho⟩ := List.mem_flatMap.1 ho
    have hof := h.isOf_of_mem_publishes hnames fs hc hd ho
    change d ∈ (record server limits namespaceName fs t).plan.definitionsFor c.target.name at hd
    rw [hplan] at hd
    exact hof.isWellFormed (Plan.nodup_labels hnames htarget (hconstant c.target htarget) hd)

end Scraper

/-! ## A tick of a run -/

/-- The labels of what a target contributes to a tick: its constant ones, and behind them those of
its definitions as they were written. -/
structure Tick.LabelledBy (namespaceName databaseLabel : String) (plan : Plan)
    (cache : MetricCache) (e : String × TargetSettings) (c : Contribution) : Prop where
  target : c.target = .ofSettings databaseLabel e.1 e.2
  constant : c.target.labels = (databaseLabel, e.1) :: e.2.labels.filter (·.1 ≠ databaseLabel)
  up : (upObservation namespaceName c.target c.up).labels = c.target.labels
  written : ∀ d ∈ plan.definitionsFor e.1, ∃ raw : RawDefinition,
    (∃ id, Definition.ofRaw raw = .ok { d with id := id }) ∧
      ∀ o ∈ c.publishes cache d, ∃ row : Row,
        o.labels = c.target.labels ++ raw.plainLabels.map fun label ↦ (label, row.text label)
  wellFormed : ∀ o ∈ c.observations namespaceName, o.IsWellFormed

namespace Scraper

variable {σ : Type} {server : Clocked σ} {limits : ConnectionLimits} {namespaceName : String}
  {history : List TickRecord} {t : TickState σ}

theorem Ran.labelledBy {s : Settings} (hkeys : s.WellKeyed)
    (h : Ran server limits namespaceName
      (s.targets.map fun e ↦ .ofSettings s.metrics.databaseLabel e.1 e.2) history t) (fs : Files)
    {e : String × TargetSettings} {c : Contribution}
    (hc : c ∈ (record server limits namespaceName fs t).contributions)
    (htarget : c.target = .ofSettings s.metrics.databaseLabel e.1 e.2) :
    Tick.LabelledBy namespaceName s.metrics.databaseLabel (reloaded namespaceName fs t).plan
      (reloaded namespaceName fs t).cache e c := by
  have hnames := hkeys.nodup_names
  obtain ⟨set, hplan, hwritten⟩ := (h.tick fs).isWritten hnames
  change (reloaded namespaceName fs t).plan = _ at hplan
  refine ⟨htarget, by rw [htarget, Target.ofSettings], rfl, fun d hd ↦ ?_, fun o ho ↦ ?_⟩
  · have hset : d ∈ set.definitions := by
      rw [hplan] at hd
      exact (Plan.definitionsFor_build_sublist set _ e.1).mem hd
    obtain ⟨raw, hlabels, hraw⟩ := hwritten.labels hset
    refine ⟨raw, hraw, fun o ho ↦ ?_⟩
    have hname : c.target.name = e.1 := by rw [htarget, Target.ofSettings]
    rw [← hname] at hd
    rw [← hlabels]
    exact (h.isOf_of_mem_publishes hnames fs hc hd ho).labels
  · exact h.isWellFormed_of_mem hnames hkeys.nodup_labelNames fs hc ho

/-- Whatever a tick publishes begins with the constant labels of its target and goes on with those
of its definition, and no two of them have one name. -/
theorem Ran.tick_labels {s : Settings} (hkeys : s.WellKeyed)
    (h : Ran server limits namespaceName
      (s.targets.map fun e ↦ .ofSettings s.metrics.databaseLabel e.1 e.2) history t) (fs : Files) :
    Tick.PublishedBy namespaceName (reloaded namespaceName fs t).plan
      (reloaded namespaceName fs t).cache
      (record server limits namespaceName fs t).contributions
      (Scraper.tick server limits namespaceName fs t).scraper.snapshot.observations ∧
    List.Forall₂
      (Tick.LabelledBy namespaceName s.metrics.databaseLabel (reloaded namespaceName fs t).plan
        (reloaded namespaceName fs t).cache)
      s.targets (record server limits namespaceName fs t).contributions ∧
    ∀ o ∈ (Scraper.tick server limits namespaceName fs t).scraper.snapshot.observations,
      o.IsWellFormed := by
  have hnames := hkeys.nodup_names
  have hfaithful := h.faithful hnames
  have hpublished := hfaithful.publishedBy server limits namespaceName hnames fs
  refine ⟨hpublished, ?_, fun o ho ↦ ?_⟩
  · have htargets : List.Forall₂
        (fun e c ↦ Target.ofSettings s.metrics.databaseLabel e.1 e.2 = c.target) s.targets
        (record server limits namespaceName fs t).contributions := by
      have hsame : (s.targets.map fun e ↦ Target.ofSettings s.metrics.databaseLabel e.1 e.2) =
          (record server limits namespaceName fs t).contributions.map (·.target) :=
        hfaithful.attached.symm.trans
          (targets_scrapeAll server limits namespaceName t.now _ t.connections).symm
      rwa [← List.forall₂_eq_eq_eq, List.forall₂_map_left_iff, List.forall₂_map_right_iff]
        at hsame
    rw [List.forall₂_iff_zip] at htargets ⊢
    refine ⟨htargets.1, fun hmem ↦ ?_⟩
    exact h.labelledBy hkeys fs (List.of_mem_zip hmem).2 (htargets.2 hmem).symm
  · rw [hpublished.whole] at ho
    obtain ⟨c, hc, ho⟩ := List.mem_flatMap.1 ho
    exact h.isWellFormed_of_mem hnames hkeys.nodup_labelNames fs hc ho

/-! ### A run

One target with a constant label whose name is that of the label with its own name, and one
definition with a column that names the metric. -/

/-- A file with one definition, its labels in capitals. -/
def hostFiles : Files :=
  Files.empty.write "a.toml" (Utf8.encode
    ("[[metric]]\ncontext = \"c\"\nlabels = [\"Host\", \"Name\"]\nmetricsdesc.v = \"\"\n" ++
      "fieldtoappend = \"NAME\"\nrequest = \"q\"\n"))

/-- The settings of the target. -/
def hostSettings : Settings where
  targets := [("db", { url := "", labels := [("database", "x"), ("env", "test")] })]

/-- The target itself. -/
def hostTarget : Target :=
  .ofSettings "database" "db" { url := "", labels := [("database", "x"), ("env", "test")] }

/-- The exporter before its first tick. -/
def beforeHosts : TickState Rehearsal :=
  ⟨.start hostFiles ["a.toml"] [hostTarget],
    [.start Rehearsal.server.steady .zero hostTarget
      { responses :=
        [⟨"", .atOnce (.ok [⟨[("v", some "1"), ("host", some "h"), ("name", some "n")]⟩])⟩] }],
    {}, .zero⟩

/-- The constant label with the name of the target gives way to it, and the column that names the
metric is no label. -/
theorem tick_labels_hosts :
    hostSettings.WellKeyed ∧
      Ran Rehearsal.server.steady {} "dbmon"
        (hostSettings.targets.map fun e ↦ .ofSettings hostSettings.metrics.databaseLabel e.1 e.2)
        [] beforeHosts ∧
      (∀ o ∈ (Scraper.tick Rehearsal.server.steady {} "dbmon" hostFiles
        beforeHosts).scraper.snapshot.observations, o.IsWellFormed) ∧
      (Scraper.tick Rehearsal.server.steady {} "dbmon" hostFiles
          beforeHosts).scraper.snapshot.observations.map (fun o ↦ (o.name, o.labels)) =
        [("dbmon_up", [("database", "db"), ("env", "test")]),
          ("dbmon_c_n", [("database", "db"), ("env", "test"), ("host", "h")])] := by
  have hkeys : hostSettings.WellKeyed := ⟨by decide, by decide⟩
  have htargets : beforeHosts.connections.map (·.target) =
      hostSettings.targets.map fun e ↦ .ofSettings hostSettings.metrics.databaseLabel e.1 e.2 :=
    rfl
  have hstart : Ran Rehearsal.server.steady {} "dbmon"
      (hostSettings.targets.map fun e ↦ .ofSettings hostSettings.metrics.databaseLabel e.1 e.2)
      [] beforeHosts := .start hostFiles ["a.toml"] htargets {} .zero
  obtain ⟨hpublished, -, hwellFormed⟩ := hstart.tick_labels hkeys hostFiles
  refine ⟨hkeys, hstart, hwellFormed, ?_⟩
  rw [hpublished.whole]
  decide +kernel

end Scraper

end Telemetry
