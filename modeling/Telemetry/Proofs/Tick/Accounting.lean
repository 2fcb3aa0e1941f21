import Telemetry.Proofs.Tick.History

/-!
# What becomes of every planned definition

A tick accounts for everything that is planned. Of a target that is up, each planned definition is
served from the cache, or computed with success, or found without rows where it tolerates that, or
reported as a failure, and it is only one of these (`Fate`). The snapshot holds what the fates
publish, target by target, and counts those that are reported.

The fates exclude each other because a definition is computed at most once in a tick, and what is
served is what is not computed. They are all there because what is not due always has a record in
the cache. What a fate does to the cache rests on the keys of a tick: they do not collide, neither
within a target nor between two.
-/

namespace Telemetry

/-- What becomes of a definition that is planned for a target which is up. -/
inductive Fate where
  /-- It was not due, and the cache served it. -/
  | served (record : CacheRecord)
  /-- It was computed. -/
  | success (observations : List Observation)
  /-- Its query returned no rows, which it tolerates. -/
  | tolerated
  /-- It could not be computed, which is reported. -/
  | failed (error : ScrapeError)
  deriving DecidableEq, Repr

namespace Fate

/-- What is published. -/
def observations : Fate → List Observation
  | .served record => record.observations
  | .success observations => observations
  | .tolerated | .failed _ => []

/-- The record in the cache after a tick that began at `started`, where there was another before
it. -/
def recordAfter (started : Instant) (old : Option CacheRecord) : Fate → Option CacheRecord
  | .served _ | .failed _ => old
  | .success observations => some ⟨observations, started⟩
  | .tolerated => some ⟨[], started⟩

/-- It is counted as an error. -/
def isFailed : Fate → Bool
  | .failed _ => true
  | .served _ | .success _ | .tolerated => false

end Fate

namespace Computation

/-- What became of a definition that was computed. -/
def fate (k : Computation) : Fate :=
  match k.result with
  | .ok observations => .success observations
  | .error e =>
    if e = .zeroResult ∧ k.definition.ignoreZeroResult = true then .tolerated else .failed e

variable (k : Computation)

theorem observations_fate : k.fate.observations = k.observations := by
  rw [fate, observations]
  cases k.result with
  | ok observations => rfl
  | error e =>
    dsimp only
    split
    · rfl
    · rfl

theorem isFailed_fate : k.fate.isFailed = k.isFailure := by
  rw [fate, isFailure, success?]
  cases k.result with
  | ok observations => rfl
  | error e =>
    dsimp only
    split
    · rfl
    · rfl

theorem recordAfter_fate (started : Instant) (old : Option CacheRecord) :
    k.fate.recordAfter started old =
      match k.success? with
      | some observations => some ⟨observations, started⟩
      | none => old := by
  rw [fate, success?]
  cases k.result with
  | ok observations => rfl
  | error e =>
    dsimp only
    split
    · rfl
    · rfl

end Computation

/-- What became of a definition in a contribution that worked with some cache. -/
inductive Contribution.HasFate (cache : MetricCache) (c : Contribution) : Definition → Fate → Prop
  | served {d : Definition} {record : CacheRecord} (hnot : d ∉ c.queried)
      (hcached : cache.cached? c.target.name d = some record) : HasFate cache c d (.served record)
  | computed {k : Computation} (hk : k ∈ c.fresh) : HasFate cache c k.definition k.fate

/-! ## One target -/

/-- A tick that began at `started`, with a plan and a cache, accounts for what a target contributed
to it; `after` is the cache that it left. -/
structure Tick.AccountsFor {σ : Type} (server : Clocked σ) (limits : ConnectionLimits)
    (namespaceName : String) (plan : Plan) (before after : MetricCache) (started : Instant)
    (connection : Connection σ) (c : Contribution) : Prop where
  target : c.target = connection.target
  up_iff : c.up = true ↔ (connection.check server limits started).result = .healthy ∧
    ∃ session, (connection.check server limits started).connection.acquire
      (connection.check server limits started).now = .ok session
  absent : c.up = false → c.fresh = [] ∧
    c.observations namespaceName = [upObservation namespaceName connection.target false]
  /-- What is due is computed, each definition from the reply to its own query. -/
  answered : c.up = true → (c.fresh.map fun k ↦ (k.definition, k.result)).Perm
    ((dispatch server (connection.check server limits started).connection.session
      (connection.check server limits started).now
      (dueDefinitions plan before connection.target.name started)
      (connection.check server limits started).connection.database).1.map fun e ↦
        (e.1, Scrape.ofReply e.2 e.1 namespaceName connection.target.labels
          connection.target.settings.queryTimeout))
  /-- What is not due is served, in the order of the plan, before what was computed. -/
  published : c.up = true → ∃ served : List (Definition × CacheRecord),
    served.map (·.1) = (plan.definitionsFor connection.target.name).filter
      (fun d ↦ !before.isDue connection.target.name d started) ∧
    (∀ e ∈ served, c.HasFate before e.1 (.served e.2)) ∧
    c.observations namespaceName = upObservation namespaceName connection.target true ::
      (served.flatMap (·.2.observations) ++ c.fresh.flatMap (·.fate.observations))
  fate : c.up = true → ∀ d ∈ plan.definitionsFor connection.target.name,
    ∃! fate, c.HasFate before d fate
  kept : c.up = true → ∀ d ∈ plan.definitionsFor connection.target.name, ∀ fate,
    c.HasFate before d fate → after.cached? connection.target.name d =
      fate.recordAfter started (before.cached? connection.target.name d)
  planned : ∀ d ∈ c.queried, d ∈ plan.definitionsFor connection.target.name

namespace TickRecord.ScrapedWith

variable {r : TickRecord} {cache : MetricCache} {c : Contribution}

theorem nodup_queried (h : r.ScrapedWith cache) (hc : c ∈ r.contributions) : c.queried.Nodup :=
  List.Nodup.of_map Definition.id
    ((h.each c hc).nodup_map_id_queried (h.ids c.target.name))

theorem eq_of_definition_eq (h : r.ScrapedWith cache) (hc : c ∈ r.contributions)
    {k k' : Computation} (hk : k ∈ c.fresh) (hk' : k' ∈ c.fresh)
    (hsame : k.definition = k'.definition) : k = k' :=
  List.inj_on_of_nodup_map (h.nodup_queried hc) hk hk' hsame

theorem eq_of_name_eq (h : r.ScrapedWith cache) {c' : Contribution} (hc : c ∈ r.contributions)
    (hc' : c' ∈ r.contributions) (hsame : c.target.name = c'.target.name) : c = c' :=
  List.inj_on_of_nodup_map h.names hc hc' hsame

/-- What was computed for a target is what stands in its own contribution. -/
theorem computed_iff (h : r.ScrapedWith cache) (hc : c ∈ r.contributions) {d : Definition}
    {observations : List Observation} : r.Computed c.target.name d observations ↔
      ∃ k ∈ c.fresh, k.definition = d ∧ k.success? = some observations := by
  refine ⟨?_, fun hk ↦ ⟨c, hc, rfl, hk⟩⟩
  rintro ⟨c', hc', hname, hk⟩
  obtain rfl := h.eq_of_name_eq hc hc' hname.symm
  exact hk

/-- Every planned definition of a target that is up has one fate. -/
theorem existsUnique_fate (h : r.ScrapedWith cache) (hc : c ∈ r.contributions)
    (hup : c.up = true) {d : Definition} (hd : d ∈ r.plan.definitionsFor c.target.name) :
    ∃! fate, c.HasFate cache d fate := by
  by_cases hqueried : d ∈ c.queried
  · obtain ⟨k, hk, rfl⟩ := List.mem_map.1 hqueried
    refine ⟨k.fate, .computed hk, fun fate hfate ↦ ?_⟩
    generalize hdefinition : k.definition = d' at hfate
    cases hfate with
    | served hnot _ => exact absurd (hdefinition ▸ hqueried) hnot
    | computed hk' => rw [h.eq_of_definition_eq hc hk hk' hdefinition]
  · have hdue : cache.isDue c.target.name d r.started = false := Bool.eq_false_iff.2 fun hdue ↦
      hqueried (((h.each c hc).mem_queried_iff hup).2 ⟨hd, hdue⟩)
    obtain ⟨-, record, -, hcached, -⟩ := MetricCache.of_not_isDue hdue
    refine ⟨.served record, .served hqueried hcached, fun fate hfate ↦ ?_⟩
    cases hfate with
    | served _ hcached' => rw [Option.some.inj (hcached.symm.trans hcached')]
    | computed hk => exact absurd (List.mem_map_of_mem hk) hqueried

/-- What a fate does to the cache. -/
theorem cached?_of_hasFate (h : r.ScrapedWith cache) {cache' : MetricCache}
    (hcache : cache'.records =
      Keyed.putAll cache.records (r.contributions.flatMap (·.records r.started)))
    (hc : c ∈ r.contributions) {d : Definition} (hd : d ∈ r.plan.definitionsFor c.target.name)
    {fate : Fate} (hfate : c.HasFate cache d fate) :
    cache'.cached? c.target.name d =
      fate.recordAfter r.started (cache.cached? c.target.name d) := by
  cases hfate with
  | served hnot hcached =>
    refine h.cached?_of_not_computed hcache hd fun observations hcomputed ↦ ?_
    obtain ⟨k, hk, rfl, -⟩ := (h.computed_iff hc).1 hcomputed
    exact hnot (List.mem_map_of_mem hk)
  | @computed k hk =>
    rw [k.recordAfter_fate]
    cases hsuccess : k.success? with
    | some observations =>
      exact h.cached?_of_computed hcache ((h.computed_iff hc).2 ⟨k, hk, rfl, hsuccess⟩)
    | none =>
      refine h.cached?_of_not_computed hcache hd fun observations hcomputed ↦ ?_
      obtain ⟨k', hk', hsame, hsuccess'⟩ := (h.computed_iff hc).1 hcomputed
      rw [h.eq_of_definition_eq hc hk' hk hsame, hsuccess] at hsuccess'
      cases hsuccess'

end TickRecord.ScrapedWith

namespace Tick

variable {σ : Type} (server : Clocked σ) (limits : ConnectionLimits) (namespaceName : String)
  (plan : Plan) (cache : MetricCache) (started : Instant) (connection : Connection σ)

/-- A target is up when it passed its check and its session can be had. -/
theorem up_scrapeTarget_iff :
    (scrapeTarget server limits namespaceName plan cache started connection).result.up = true ↔
      (connection.check server limits started).result = .healthy ∧
        ∃ session, (connection.check server limits started).connection.acquire
          (connection.check server limits started).now = .ok session := by
  rw [scrapeTarget]
  cases (connection.check server limits started).result with
  | down => simp [absent]
  | invalid => simp [absent]
  | healthy =>
    cases (connection.check server limits started).connection.acquire
        (connection.check server limits started).now with
    | error e => simp [absent]
    | ok session => simp [scrapeSession]

/-- What is computed comes from the replies, in some order. -/
theorem perm_computations_scrapeTarget
    (hup : (scrapeTarget server limits namespaceName plan cache started connection).result.up =
      true) :
    ((scrapeTarget server limits namespaceName plan cache started connection).result.fresh.map
      fun k ↦ (k.definition, k.result)).Perm
    ((dispatch server (connection.check server limits started).connection.session
      (connection.check server limits started).now
      (dueDefinitions plan cache connection.target.name started)
      (connection.check server limits started).connection.database).1.map fun e ↦
        (e.1, Scrape.ofReply e.2 e.1 namespaceName connection.target.labels
          connection.target.settings.queryTimeout)) := by
  rcases scrapeTarget_cases server limits namespaceName plan cache started connection with
    h | ⟨-, h⟩
  · rw [h] at hup
    cases hup
  · rw [h, scrapeSession, ← connection.target_check server limits started, List.map_map]
    exact (perm_inCompletionOrder _ _).map _

/-- Definitions that have records are served these. -/
theorem exists_served {target : String} {definitions : List Definition}
    (h : ∀ d ∈ definitions, ∃ record, cache.cached? target d = some record) :
    ∃ served : List (Definition × CacheRecord), served.map (·.1) = definitions ∧
      (∀ e ∈ served, cache.cached? target e.1 = some e.2) ∧
      definitions.filterMap (fun d ↦ (cache.cached? target d).map (·.observations)) =
        served.map (·.2.observations) := by
  induction definitions with
  | nil => exact ⟨[], rfl, nofun, rfl⟩
  | cons d definitions ih =>
    obtain ⟨record, hcached⟩ := h d List.mem_cons_self
    obtain ⟨served, hfst, hall, hserved⟩ := ih fun d' hd' ↦ h d' (List.mem_cons_of_mem d hd')
    refine ⟨(d, record) :: served, by rw [List.map_cons, hfst], ?_, ?_⟩
    · intro e he
      rcases List.mem_cons.1 he with rfl | he
      · exact hcached
      · exact hall e he
    · rw [List.filterMap_cons_some (by rw [hcached]; rfl), hserved, List.map_cons]

/-- What a target that is up publishes. -/
theorem ScrapedFrom.exists_observations_eq {plan : Plan} {cache : MetricCache} {started : Instant}
    {target : Target} {c : Contribution} (h : ScrapedFrom plan cache started target c)
    (hup : c.up = true) :
    ∃ served : List (Definition × CacheRecord),
      served.map (·.1) =
        (plan.definitionsFor target.name).filter (fun d ↦ !cache.isDue target.name d started) ∧
      (∀ e ∈ served, c.HasFate cache e.1 (.served e.2)) ∧
      c.observations namespaceName = upObservation namespaceName target true ::
        (served.flatMap (·.2.observations) ++ c.fresh.flatMap (·.fate.observations)) := by
  have hnotDue : ∀ d ∈ (plan.definitionsFor target.name).filter
      (fun d ↦ !cache.isDue target.name d started), cache.isDue target.name d started = false :=
    fun d hd ↦ by simpa using (List.mem_filter.1 hd).2
  obtain ⟨served, hfst, hall, hserved⟩ := exists_served cache fun d hd ↦ by
    obtain ⟨-, record, -, hcached, -⟩ := MetricCache.of_not_isDue (hnotDue d hd)
    exact ⟨record, hcached⟩
  refine ⟨served, hfst, fun e he ↦ .served (fun hqueried ↦ ?_) ?_, ?_⟩
  · have hdue := hnotDue e.1 (hfst ▸ List.mem_map_of_mem he)
    rw [((h.mem_queried_iff hup).1 hqueried).2] at hdue
    cases hdue
  · rw [h.belongs]
    exact hall e he
  · have hcached : c.cached.flatten = served.flatMap (·.2.observations) := by
      rw [h.cached hup, servedFromCache, hserved, List.flatMap_def]
    have hfates : c.fresh.flatMap (·.fate.observations) =
        c.fresh.flatMap Computation.observations :=
      List.flatMap_congr fun k _ ↦ k.observations_fate
    rw [Contribution.observations, h.belongs, hup, hcached, hfates]

end Tick

/-! ## A tick of a run -/

namespace Scraper

variable {σ : Type} {server : Clocked σ} {limits : ConnectionLimits} {namespaceName : String}

/-- The scraper that a tick works with, after the definitions were loaded again if need be. -/
def reloaded (namespaceName : String) (fs : Files) (t : TickState σ) : Scraper :=
  (t.scraper.reload namespaceName fs (t.connections.map (·.target)) t.meters).1

theorem Faithful.accountsFor {targets : List Target} {history : List TickRecord} {t : TickState σ}
    (h : Faithful targets history t) (hnames : (targets.map (·.name)).Nodup) (fs : Files)
    {connection : Connection σ} (hmem : connection ∈ t.connections) :
    Tick.AccountsFor server limits namespaceName (reloaded namespaceName fs t).plan
      (reloaded namespaceName fs t).cache
      (Scraper.tick server limits namespaceName fs t).scraper.cache t.now connection
      (Tick.scrapeTarget server limits namespaceName (reloaded namespaceName fs t).plan
        (reloaded namespaceName fs t).cache t.now connection).result := by
  have hscraped := h.scrapedWith server limits namespaceName hnames fs
  have hcache : (Scraper.tick server limits namespaceName fs t).scraper.cache.records =
      Keyed.putAll (reloaded namespaceName fs t).cache.records
        ((record server limits namespaceName fs t).contributions.flatMap (·.records t.now)) :=
    Tick.records_aggregate namespaceName t.now _ _
  have hc : (Tick.scrapeTarget server limits namespaceName (reloaded namespaceName fs t).plan
      (reloaded namespaceName fs t).cache t.now connection).result ∈
        (record server limits namespaceName fs t).contributions :=
    (mem_contributions_record server limits namespaceName).2 ⟨connection, hmem, rfl⟩
  have hfrom := Tick.scrapedFrom_scrapeTarget server limits namespaceName
    (reloaded namespaceName fs t).plan (reloaded namespaceName fs t).cache t.now connection
  have hanswered := Tick.perm_computations_scrapeTarget server limits namespaceName
    (reloaded namespaceName fs t).plan (reloaded namespaceName fs t).cache t.now connection
  have hup := Tick.up_scrapeTarget_iff server limits namespaceName
    (reloaded namespaceName fs t).plan (reloaded namespaceName fs t).cache t.now connection
  generalize Tick.scrapeTarget server limits namespaceName (reloaded namespaceName fs t).plan
    (reloaded namespaceName fs t).cache t.now connection = settled at hc hfrom hanswered hup ⊢
  have htarget := hfrom.belongs
  refine ⟨htarget, hup, fun hdown ↦ ?_, hanswered, hfrom.exists_observations_eq namespaceName,
    fun hup d hd ↦ ?_, fun hup d hd fate hfate ↦ ?_, fun d hd ↦ hfrom.mem_definitionsFor hd⟩
  · obtain ⟨hfresh, hcached⟩ := hfrom.silent hdown
    refine ⟨hfresh, ?_⟩
    rw [Contribution.observations, hfresh, hcached, hdown, htarget]
    rfl
  · rw [← htarget] at hd
    exact hscraped.existsUnique_fate hc hup hd
  · rw [← htarget] at hd ⊢
    exact hscraped.cached?_of_hasFate hcache hc hd hfate

/-- A tick accounts for everything that is planned, target by target, and counts what failed. -/
theorem Ran.tick_accounts {targets : List Target} (hnames : (targets.map (·.name)).Nodup)
    {history : List TickRecord} {t : TickState σ}
    (h : Ran server limits namespaceName targets history t) (fs : Files) :
    (record server limits namespaceName fs t).contributions.map (·.target) = targets ∧
      List.Forall₂
        (Tick.AccountsFor server limits namespaceName (reloaded namespaceName fs t).plan
          (reloaded namespaceName fs t).cache
          (Scraper.tick server limits namespaceName fs t).scraper.cache t.now)
        t.connections (record server limits namespaceName fs t).contributions ∧
      (Scraper.tick server limits namespaceName fs t).scraper.snapshot.observations =
        (record server limits namespaceName fs t).contributions.flatMap
          (·.observations namespaceName) ∧
      (Scraper.tick server limits namespaceName fs t).scraper.snapshot.errors =
        ((record server limits namespaceName fs t).contributions.flatMap (·.fresh)).countP
          (·.fate.isFailed) := by
  have hfaithful := h.faithful hnames
  refine ⟨?_, ?_, ?_, ?_⟩
  · exact (targets_scrapeAll server limits namespaceName t.now _ t.connections).trans
      hfaithful.attached
  · rw [record]
    simp only [scrapeAll, List.map_map, List.forall₂_map_right_iff, List.forall₂_same]
    exact fun connection hmem ↦ hfaithful.accountsFor hnames fs hmem
  · exact (Tick.observations_aggregate namespaceName t.now _ _).trans (List.nil_append _)
  · have hfates : (fun k : Computation ↦ k.fate.isFailed) = Computation.isFailure :=
      funext fun k ↦ k.isFailed_fate
    rw [hfates]
    exact (Tick.errors_aggregate namespaceName t.now _ _).trans (Nat.zero_add _)

/-! ### A tick with every fate

Five targets, and a definition for each of the first four. The first one is computed every hour. The
queries of the others give two rows, no rows and an error. There is no database behind the last
target. -/

/-- A file with a definition for one target. -/
def fateSource (target more : String) (raw : RawDefinition) : DefinitionStore.DefinitionText where
  path := target
  text := "[[metric]]\ncontext='" ++ raw.context ++ "'\nmetricsdesc.v=''\nrequest='" ++
    raw.request ++ "'\ndatabases=['" ++ target ++ "']\n" ++ more
  raws := [{ raw with help := [("v", "")], databases := some [target] }]

/-- The files of the run. -/
def fateSources : List DefinitionStore.DefinitionText :=
  [fateSource "a" "scrapeinterval='1h'\n"
      { context := "hold", request := "hold", scrapeInterval := some "1h" },
    fateSource "b" "labels=['l']\n" { context := "rows", request := "rows", labels := ["l"] },
    fateSource "c" "ignorezeroresult=true\n"
      { context := "none", request := "none", ignoreZeroResult := true },
    fateSource "d" "" { context := "fail", request := "fail" }]

/-- The files around the run. -/
def fateFiles : Files :=
  fateSources.foldl (fun fs source ↦ fs.write source.path (Utf8.encode source.text)) .empty

theorem isIn_fateFiles : ∀ source ∈ fateSources, source.IsIn fateFiles := by
  simp only [fateSources, List.forall_mem_cons, List.not_mem_nil, false_implies, implies_true,
    and_true]
  exact ⟨⟨rfl, by decide +kernel⟩, ⟨rfl, by decide +kernel⟩, ⟨rfl, by decide +kernel⟩,
    ⟨rfl, by decide +kernel⟩⟩

/-- A target. -/
def fateTarget (name : String) : Target := ⟨name, { url := "" }, [("database", name)]⟩

/-- The targets of the run. -/
def fateTargets : List Target := ["a", "b", "c", "d", "e"].map fateTarget

/-- The database behind a target. -/
def fateDatabase (target : String) : Rehearsal where
  absent := if target = "e" then some (.other "no such database") else none
  responses :=
    [⟨"hold", .atOnce (.ok [⟨[("v", some "1")]⟩])⟩,
      ⟨"rows", .atOnce (.ok [⟨[("l", some "x"), ("v", some "1")]⟩,
        ⟨[("l", some "y"), ("v", some "0")]⟩])⟩,
      ⟨"fail", .atOnce (.error (.other "no such table"))⟩]

/-- The exporter before its first tick. -/
def beforeFates : TickState Rehearsal :=
  ⟨.start fateFiles (fateSources.map (·.path)) fateTargets,
    fateTargets.map fun t ↦ .start Rehearsal.server.steady .zero t (fateDatabase t.name), {}, .zero⟩

/-- The exporter after its first tick. -/
def amidFates : TickState Rehearsal :=
  tick Rehearsal.server.steady {} "dbmon" fateFiles beforeFates

theorem ran_amidFates : Ran Rehearsal.server.steady {} "dbmon" fateTargets
    [record Rehearsal.server.steady {} "dbmon" fateFiles beforeFates] amidFates := by
  have htargets : beforeFates.connections.map (·.target) = fateTargets := rfl
  have hstart : Ran Rehearsal.server.steady {} "dbmon" fateTargets [] beforeFates :=
    .start fateFiles (fateSources.map (·.path)) htargets {} .zero
  exact hstart.tick fateFiles

/-- What the exporter has loaded before its first tick. -/
def fateScraper : Scraper where
  store := fateSources.foldl
    (fun store source ↦ store.remember source.path (Utf8.encode source.text))
    (.ofSources (fateSources.map (·.path)))
  plan := .build (.ofRaw (fateSources.flatMap (·.raws))) fateTargets

theorem scraper_beforeFates : beforeFates = { beforeFates with scraper := fateScraper } := by
  rw [beforeFates, start, DefinitionStore.load_of_isIn isIn_fateFiles rfl, fateScraper]

/-- Whether a target is up, the names of what is served, and what becomes of what is computed. -/
def fatesOf (c : Contribution) : Bool × List (List String) × List (String × Fate) :=
  (c.up, c.cached.map (·.map (·.name)), c.fresh.map fun k ↦ (k.definition.context, k.fate))

/-- What becomes of the definitions in the second tick: one is served, and three are computed, each
with another fate. -/
def fateReports : List (Bool × List (List String) × List (String × Fate)) :=
  [(true, [["dbmon_hold_v"]], []),
    (true, [],
      [("rows", .success [.gauge "dbmon_rows_v" "" [("database", "b"), ("l", "x")] .one,
        .gauge "dbmon_rows_v" "" [("database", "b"), ("l", "y")] .zero])]),
    (true, [], [("none", .tolerated)]),
    (true, [], [("fail", .failed (.query (.other "no such table")))]),
    (false, [], [])]

/-- What the second tick publishes. -/
def fateObservations : List Observation :=
  [Tick.upObservation "dbmon" (fateTarget "a") true,
    .gauge "dbmon_hold_v" "" [("database", "a")] .one,
    Tick.upObservation "dbmon" (fateTarget "b") true,
    .gauge "dbmon_rows_v" "" [("database", "b"), ("l", "x")] .one,
    .gauge "dbmon_rows_v" "" [("database", "b"), ("l", "y")] .zero,
    Tick.upObservation "dbmon" (fateTarget "c") true,
    Tick.upObservation "dbmon" (fateTarget "d") true,
    Tick.upObservation "dbmon" (fateTarget "e") false]

theorem tick_amidFates :
    (record Rehearsal.server.steady {} "dbmon" fateFiles amidFates).contributions.map fatesOf =
        fateReports ∧
      (Scraper.tick Rehearsal.server.steady {} "dbmon" fateFiles
        amidFates).scraper.snapshot.observations = fateObservations ∧
      (Scraper.tick Rehearsal.server.steady {} "dbmon" fateFiles
        amidFates).scraper.snapshot.errors = 1 := by
  rw [amidFates, scraper_beforeFates]
  decide +kernel

/-- The contributions of the tick add up to what it publishes, and one of their fates is a
failure. -/
theorem tick_accounts_fates :
    (fateTargets.map (·.name)).Nodup ∧
      Ran Rehearsal.server.steady {} "dbmon" fateTargets
        [record Rehearsal.server.steady {} "dbmon" fateFiles beforeFates] amidFates ∧
      (record Rehearsal.server.steady {} "dbmon" fateFiles amidFates).contributions.map
        (·.target) = fateTargets ∧
      List.Forall₂
        (Tick.AccountsFor Rehearsal.server.steady {} "dbmon"
          (reloaded "dbmon" fateFiles amidFates).plan (reloaded "dbmon" fateFiles amidFates).cache
          (Scraper.tick Rehearsal.server.steady {} "dbmon" fateFiles amidFates).scraper.cache
          amidFates.now)
        amidFates.connections
        (record Rehearsal.server.steady {} "dbmon" fateFiles amidFates).contributions ∧
      (record Rehearsal.server.steady {} "dbmon" fateFiles amidFates).contributions.map fatesOf =
        fateReports ∧
      (record Rehearsal.server.steady {} "dbmon" fateFiles amidFates).contributions.flatMap
        (·.observations "dbmon") = fateObservations ∧
      ((record Rehearsal.server.steady {} "dbmon" fateFiles amidFates).contributions.flatMap
        (·.fresh)).countP (·.fate.isFailed) = 1 := by
  have hnames : (fateTargets.map (·.name)).Nodup := by decide
  obtain ⟨htargets, haccounts, hobservations, herrors⟩ :=
    ran_amidFates.tick_accounts hnames fateFiles
  obtain ⟨hfates, hpublished, hone⟩ := tick_amidFates
  exact ⟨hnames, ran_amidFates, htargets, haccounts, hfates, hobservations ▸ hpublished,
    herrors ▸ hone⟩

end Scraper

end Telemetry
