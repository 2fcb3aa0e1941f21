import Telemetry.Proofs.Exposition.Rows
import Telemetry.Proofs.Tick.Accounting
import Telemetry.Proofs.Tick.Labels

/-!
# Families as a partition

The names of the families are the names of the observations, each where it first appeared
(`MetricFamily.names_group`), and a family holds the observations of its name and no others, so the
families are the observations sorted by their names and nothing else (`MetricFamily.IsPartition`).

On the page each observation stands under the type of its family, and each of its lines has all its
labels in order, with the bound of a bucket behind them (`Exposition.sampleLines_eq`). Nothing of it
is lost as long as every observation has a name, and in a snapshot every observation has one: behind
a namespace that is not empty no name is (`Scraper.Ran.name_ne_empty`).
-/

namespace Telemetry

/-! ## Names -/

namespace MetricFamily

/-- The families come in the order in which their names first appear. -/
theorem names_group (observations : List Observation) :
    (group observations).map (·.name) = (observations.map (·.name)).eraseDups := by
  induction observations using List.reverseRecOn with
  | nil => rfl
  | append_singleton observations o ih =>
    rw [group_append, names_place, List.map_append, List.eraseDups_append, ← ih,
      List.map_singleton]
    by_cases hmem : o.name ∈ observations.map (·.name)
    · have hknown : [o.name].removeAll (observations.map (·.name)) = [] := by
        simpa [List.removeAll] using hmem
      rw [if_pos (mem_names_group.2 hmem), hknown, List.eraseDups_nil, List.append_nil]
    · have hnew : [o.name].removeAll (observations.map (·.name)) = [o.name] := by
        simpa [List.removeAll] using hmem
      rw [if_neg (mt mem_names_group.1 hmem), hnew]
      rfl

/-- The families are the observations by their names. -/
structure IsPartition (families : List MetricFamily) (observations : List Observation) : Prop where
  names : families.map (·.name) = (observations.map (·.name)).eraseDups
  distinct : (families.map (·.name)).Nodup
  gathers : ∀ f ∈ families, f.Gathers observations
  whole : (families.flatMap (·.metrics)).Perm observations

theorem isPartition_group (observations : List Observation) :
    IsPartition (group observations) observations where
  names := names_group observations
  distinct := nodup_names_group observations
  gathers _ hf := gathers_of_mem_group hf
  whole := perm_metrics_group observations

end MetricFamily

/-! ## Lines -/

namespace Exposition

/-- What a sample line has of its own: the ending of its name, the bound of a bucket, and the
number. -/
structure Point where
  ending : String
  bound : Option String
  value : Binary64

/-- The lines of an observation that is written as one of the given kind. -/
def pointsOf (kind : MetricKind) (o : Observation) : List Point :=
  match kind with
  | .gauge | .counter => [⟨"", none, o.value⟩]
  | .histogram =>
    let h := o.histogram.getD ⟨0, []⟩
    (h.buckets.map fun b ↦ ⟨"_bucket", some b.1.text, .ofNat b.2⟩) ++
      (if h.buckets.any fun b ↦ b.1 == .infinity false then []
        else [⟨"_bucket", some "+Inf", .ofNat h.count⟩]) ++
      [⟨"_sum", none, o.value⟩, ⟨"_count", none, .ofNat h.count⟩]

/-- A line with labels, and the bound of a bucket behind them. -/
def Point.line (name : String) (ls : List (String × String)) (p : Point) : List Char :=
  sample name p.ending (ls ++ p.bound.toList.map fun bound ↦ ("le", bound)) p.value

/-- Every line of an observation has its labels in order. -/
theorem sampleLines_eq (name : String) (kind : MetricKind) (o : Observation) :
    sampleLines name kind o = (pointsOf kind o).flatMap (Point.line name o.labels) := by
  cases kind with
  | gauge | counter => simp [sampleLines, pointsOf, Point.line]
  | histogram =>
    have hbuckets (buckets : List (Binary64 × Nat)) :
        (buckets.flatMap fun b ↦
          sample name "_bucket" (o.labels ++ [("le", b.1.text)]) (.ofNat b.2)) =
        (buckets.map fun b ↦ Point.mk "_bucket" (some b.1.text) (.ofNat b.2)).flatMap
          (Point.line name o.labels) := by
      rw [List.flatMap_map]
      rfl
    rw [sampleLines, pointsOf, bucketLines, hbuckets, List.flatMap_append, List.flatMap_append]
    split
    · simp [Point.line]
    · simp [Point.line]

end Exposition

/-! ## Snapshots -/

theorem Scrape.nameOf_ne_empty {namespaceName : String} (h : namespaceName ≠ "") (row : Row)
    (d : Definition) (column : MetricColumn) : nameOf row d namespaceName column ≠ "" := by
  cases hfield : d.fieldToAppend with
  | none =>
    rw [nameOf_of_none hfield]
    exact MetricName.join_ne_empty h
  | some field =>
    rw [nameOf_of_some hfield]
    exact MetricName.join_ne_empty h

namespace Scraper

variable {σ : Type} {server : Clocked σ} {limits : ConnectionLimits} {namespaceName : String}
  {targets : List Target} {history : List TickRecord} {t : TickState σ}

/-- Whatever a target contributes to a tick has a name. -/
theorem Ran.name_ne_empty_of_mem (hnamespace : namespaceName ≠ "")
    (hnames : (targets.map (·.name)).Nodup)
    (h : Ran server limits namespaceName targets history t) (fs : Files) {c : Contribution}
    (hc : c ∈ (record server limits namespaceName fs t).contributions) {o : Observation}
    (ho : o ∈ c.observations namespaceName) : o.name ≠ "" := by
  have hpublished := (h.faithful hnames).publishedBy server limits namespaceName hnames fs
  rcases List.mem_cons.1 ((hpublished.parts c hc).mem_iff.1 ho) with rfl | ho
  · exact MetricName.join_ne_empty hnamespace
  · obtain ⟨d, hd, ho⟩ := List.mem_flatMap.1 ho
    obtain ⟨row, hrow⟩ := h.exists_row_of_mem_publishes hnames fs hc hd ho
    obtain ⟨column, -, hname, -⟩ := Scrape.exists_column_of_mem hrow
    rw [hname]
    exact Scrape.nameOf_ne_empty hnamespace row d column

/-- Every observation of a snapshot has a name. -/
theorem Ran.name_ne_empty (hnamespace : namespaceName ≠ "") (hnames : (targets.map (·.name)).Nodup)
    (h : Ran server limits namespaceName targets history t) :
    ∀ o ∈ t.scraper.snapshot.observations, o.name ≠ "" := by
  induction h with
  | start => exact nofun
  | between _ hscraper _ _ ih =>
    rcases hscraper with hscraper | hscraper
    · rw [hscraper]
      exact ih
    · rw [hscraper]
      exact ih
  | tick hran fs ih =>
    intro o ho
    rw [((hran.faithful hnames).publishedBy server limits namespaceName hnames fs).whole] at ho
    obtain ⟨c, hc, ho⟩ := List.mem_flatMap.1 ho
    exact hran.name_ne_empty_of_mem hnamespace hnames fs hc ho

end Scraper

namespace Exposition

/-- The families are the observations by their names, and the page shows each observation under the
type of its family, with its labels in order. It shows all families exactly if every observation has
a name. -/
structure IsShown (observations : List Observation) : Prop where
  families : MetricFamily.IsPartition (MetricFamily.group observations) observations
  lines : ∀ f ∈ MetricFamily.group observations, family f = header f ++
    f.metrics.flatMap fun o ↦ (pointsOf f.kind o).flatMap (Point.line f.name o.labels)
  all : writable (MetricFamily.group observations) = MetricFamily.group observations ↔
    ∀ o ∈ observations, o.name ≠ ""
  page : (∀ o ∈ observations, o.name ≠ "") →
    (render observations).toList = (MetricFamily.group observations).flatMap family

theorem isShown (observations : List Observation) : IsShown observations where
  families := MetricFamily.isPartition_group observations
  lines f _ := by
    rw [family, List.flatMap_congr fun o _ ↦ sampleLines_eq f.name f.kind o]
  all := writable_group_iff
  page := render_eq

/-- Whatever the observations are, they are shown by their names; and behind a namespace that is not
empty, every observation of every snapshot has a name. -/
theorem render_partitions :
    (∀ observations, IsShown observations) ∧
      ∀ (σ : Type) (server : Clocked σ) (limits : ConnectionLimits) (namespaceName : String)
        (targets : List Target) (history : List TickRecord) (t : Scraper.TickState σ),
        namespaceName ≠ "" → (targets.map (·.name)).Nodup →
        Scraper.Ran server limits namespaceName targets history t →
        ∀ o ∈ t.scraper.snapshot.observations, o.name ≠ "" :=
  ⟨isShown, fun _ _ _ _ _ _ _ hnamespace hnames hran ↦ hran.name_ne_empty hnamespace hnames⟩

/-- A tick of several targets: the family of the targets themselves is scattered over the snapshot,
and one of the others holds the two rows of a query. -/
theorem render_partitions_fates :
    "dbmon" ≠ "" ∧ (Scraper.fateTargets.map (·.name)).Nodup ∧
      Scraper.Ran Rehearsal.server.steady {} "dbmon" Scraper.fateTargets
        [Scraper.record Rehearsal.server.steady {} "dbmon" Scraper.fateFiles Scraper.beforeFates]
        Scraper.amidFates ∧
      (∀ o ∈ (Scraper.tick Rehearsal.server.steady {} "dbmon" Scraper.fateFiles
        Scraper.amidFates).scraper.snapshot.observations, o.name ≠ "") ∧
      IsShown (Scraper.tick Rehearsal.server.steady {} "dbmon" Scraper.fateFiles
        Scraper.amidFates).scraper.snapshot.observations ∧
      (MetricFamily.group (Scraper.tick Rehearsal.server.steady {} "dbmon" Scraper.fateFiles
        Scraper.amidFates).scraper.snapshot.observations).map
          (fun f ↦ (f.name, f.metrics.map (·.labels))) =
        [("dbmon_up", ["a", "b", "c", "d", "e"].map fun name ↦ [("database", name)]),
          ("dbmon_hold_v", [[("database", "a")]]),
          ("dbmon_rows_v", ["x", "y"].map fun l ↦ [("database", "b"), ("l", l)])] := by
  have hnamespace : "dbmon" ≠ "" := by decide
  have hnames : (Scraper.fateTargets.map (·.name)).Nodup := by decide
  obtain ⟨hshown, hnonempty⟩ := render_partitions
  refine ⟨hnamespace, hnames, Scraper.ran_amidFates,
    hnonempty _ _ _ _ _ _ _ hnamespace hnames (Scraper.ran_amidFates.tick _), hshown _, ?_⟩
  rw [Scraper.tick_amidFates.2.1]
  decide +kernel

/-- A name that comes back joins its family, under the type that this has already. -/
example : (MetricFamily.group [.gauge "a" "first" [] .one, .gauge "b" "" [] .zero,
    ⟨"a", "second", [("l", "v")], .counter, .zero, none⟩]).map
      (fun f ↦ (f.name, f.help, f.kind, f.metrics.map (·.labels))) =
    [("a", "first", .gauge, [[], [("l", "v")]]), ("b", "", .gauge, [[]])] := by
  rfl

end Exposition

end Telemetry
