import Telemetry.Proofs.Tick.Independence

/-!
# The order of completion does not matter

The queries of a target are under way together, and their answers are put together in the order in
which they come. Whatever that order is, a tick publishes the same observations for each definition,
counts the same errors, and leaves the same cache; so ticks go on alike however often the order
differs (`Paired.tick_agrees`).

What is kept of a tick is kept under different keys, because the definitions of a set have
identities of their own (`TickRecord.ScrapedWith.nodup_keys`), and different keys can be written in
any order (`Keyed.perm_putAll`). What is published for one definition comes from one answer, and
stands together wherever that answer falls.

## The invariant

Two runs whose ticks differ in the order of completion alone stay `Matched`: they have the same
plan, and their caches hold the same records.
-/

namespace Telemetry

namespace Tick

/-- The order in which the queries of each target are completed. -/
structure Completion where
  arrange : Target → List Computation → List Computation
  perm : ∀ target computations, (arrange target computations).Perm computations

/-- The order in which the answers come. -/
def Completion.asItComes : Completion := ⟨fun _ computations ↦ computations, fun _ _ ↦ .refl _⟩

end Tick

namespace Contribution

variable (completion : Tick.Completion)

/-- The contribution with its queries completed in some order. -/
def completedIn (c : Contribution) : Contribution :=
  { c with fresh := completion.arrange c.target c.fresh }

variable {c : Contribution}

theorem queried_completedIn : (c.completedIn completion).queried.Perm c.queried :=
  (completion.perm c.target c.fresh).map _

theorem answer?_completedIn (hnodup : c.queried.Nodup) (d : Definition) :
    (c.completedIn completion).answer? d = c.answer? d := by
  rw [← map_fst_answers] at hnodup
  have hperm := (completion.perm c.target c.fresh).map fun k ↦ (k.definition, k.result)
  exact Keyed.get?_of_perm hperm ((hperm.map (·.1)).nodup_iff.2 hnodup) d

theorem publishes_completedIn (hnodup : c.queried.Nodup) (cache : MetricCache) (d : Definition) :
    (c.completedIn completion).publishes cache d = c.publishes cache d :=
  publishes_congr rfl rfl (answer?_completedIn completion hnodup d)

theorem observations_completedIn (namespaceName : String) :
    ((c.completedIn completion).observations namespaceName).Perm
      (c.observations namespaceName) :=
  .cons _ (.append_left _ (.flatMap_right _ (completion.perm c.target c.fresh)))

theorem records_completedIn (started : Instant) :
    ((c.completedIn completion).records started).Perm (c.records started) :=
  (completion.perm c.target c.fresh).filterMap _

end Contribution

namespace TickRecord

variable (completion : Tick.Completion) {r : TickRecord} {cache : MetricCache}

/-- What happened in a tick whose queries were completed in some order. -/
def completedIn (r : TickRecord) : TickRecord :=
  { r with contributions := r.contributions.map (·.completedIn completion) }

theorem ScrapedWith.completedIn (h : r.ScrapedWith cache) :
    (r.completedIn completion).ScrapedWith cache := by
  refine ⟨?_, h.ids, fun c hc ↦ ?_⟩
  · rw [TickRecord.completedIn, List.map_map]
    exact h.names
  · obtain ⟨c, hmem, rfl⟩ := List.mem_map.1 hc
    obtain ⟨hbelongs, hqueried, hcached, hsilent⟩ := h.each c hmem
    refine ⟨hbelongs, fun hup ↦ ?_, hcached, fun hdown ↦ ⟨?_, (hsilent hdown).2⟩⟩
    · exact (c.queried_completedIn completion).trans (hqueried hup)
    · have hperm := completion.perm c.target c.fresh
      exact List.perm_nil.1 (hperm.trans (.of_eq (hsilent hdown).1))

theorem records_completedIn (r : TickRecord) :
    ((r.completedIn completion).contributions.flatMap (·.records r.started)).Perm
      (r.contributions.flatMap (·.records r.started)) := by
  rw [completedIn, List.flatMap_map]
  exact List.Perm.flatMap_left _ fun c _ ↦ c.records_completedIn completion r.started

end TickRecord

/-! ## Caches with the same records -/

namespace MetricCache

/-- Two caches with the same records. The order in which they were written shows nowhere. -/
structure Same (cache cache' : MetricCache) : Prop where
  records : cache'.records.Perm cache.records
  get? : ∀ key, Keyed.get? cache'.records key = Keyed.get? cache.records key

variable {cache cache' : MetricCache}

theorem Same.refl (cache : MetricCache) : Same cache cache := ⟨.refl _, fun _ ↦ rfl⟩

theorem Same.cached? (h : Same cache cache') (target : String) (d : Definition) :
    cache'.cached? target d = cache.cached? target d := h.get? (target, d.id)

/-- Caches stay the same when the same is written to them, in whatever order. -/
theorem Same.putAll (h : Same cache cache')
    {written written' : List ((String × String) × CacheRecord)} (hperm : written'.Perm written)
    (hnodup : (written.map (·.1)).Nodup) :
    Same ⟨Keyed.putAll cache.records written⟩ ⟨Keyed.putAll cache'.records written'⟩ where
  records := (Keyed.putAll_perm h.records written').trans
    (Keyed.perm_putAll hperm ((hperm.map (·.1)).nodup_iff.2 hnodup) cache.records)
  get? := Keyed.get?_putAll_congr h.get? hperm hnodup

end MetricCache

namespace Tick

variable {cache cache' : MetricCache} (h : cache.Same cache') (plan : Plan) (started : Instant)
include h

theorem dueDefinitions_of_same (target : String) :
    dueDefinitions plan cache' target started = dueDefinitions plan cache target started :=
  List.filter_congr fun d _ ↦ MetricCache.isDue_congr (h.cached? target d) started

theorem servedFromCache_of_same (target : String) :
    servedFromCache plan cache' target started = servedFromCache plan cache target started := by
  have hfilter : (plan.definitionsFor target).filter (fun d ↦ !cache'.isDue target d started) =
      (plan.definitionsFor target).filter fun d ↦ !cache.isDue target d started :=
    List.filter_congr fun d _ ↦ by rw [MetricCache.isDue_congr (h.cached? target d)]
  rw [servedFromCache, servedFromCache, hfilter]
  exact List.filterMap_congr fun d _ ↦ by rw [h.cached?]

/-- A target reads the records of a cache, and nothing else of it. -/
theorem scrapeTarget_of_same {σ : Type} (server : Clocked σ) (limits : ConnectionLimits)
    (namespaceName : String) (c : Connection σ) :
    scrapeTarget server limits namespaceName plan cache' started c =
      scrapeTarget server limits namespaceName plan cache started c := by
  simp only [scrapeTarget, scrapeSession, dueDefinitions_of_same h, servedFromCache_of_same h]

theorem publishes_of_same (c : Contribution) (d : Definition) :
    c.publishes cache' d = c.publishes cache d := by
  rw [Contribution.publishes, Contribution.publishes, h.cached?]

end Tick

/-! ## Ticks -/

namespace Scraper

variable {σ : Type} (server : Clocked σ) (limits : ConnectionLimits) (namespaceName : String)
  (completion completion' : Tick.Completion)

/-- A whole tick whose queries are completed in some order. -/
def tickIn (fs : Files) (t : TickState σ) : TickState σ :=
  let started := t.now
  let (scraper, meters) :=
    t.scraper.reload namespaceName fs (t.connections.map (·.target)) t.meters
  let settled := scraper.scrapeAll server limits namespaceName started t.connections
  let now := (settled.map (·.now)).foldl max started
  let account := Tick.aggregate namespaceName started ⟨{}, scraper.cache, meters⟩
    ((settled.map (·.result)).map (·.completedIn completion))
  let snapshot := { account.snapshot with completedAt := some now }
  { scraper := { scraper with cache := account.cache, snapshot := snapshot }
    connections := settled.map (·.connection)
    meters := account.meters.recordTick namespaceName (now.since started) snapshot.errors
    now := now }

theorem tickIn_asItComes (fs : Files) (t : TickState σ) :
    tickIn server limits namespaceName .asItComes fs t = tick server limits namespaceName fs t := by
  have hcompleted : Contribution.completedIn .asItComes = id := rfl
  rw [tickIn, tick, hcompleted]
  simp only [List.map_id]

variable {targets : List Target} {history : List TickRecord} {t u : TickState σ}

theorem cache_tickIn (fs : Files) (t : TickState σ) :
    (tickIn server limits namespaceName completion fs t).scraper.cache =
      ⟨Keyed.putAll (reloaded namespaceName fs t).cache.records
        (((record server limits namespaceName fs t).completedIn completion).contributions.flatMap
          (·.records t.now))⟩ :=
  congrArg MetricCache.mk (Tick.records_aggregate namespaceName t.now _ _)

theorem observations_tickIn (fs : Files) (t : TickState σ) :
    (tickIn server limits namespaceName completion fs t).scraper.snapshot.observations =
      ((record server limits namespaceName fs t).completedIn completion).contributions.flatMap
        (·.observations namespaceName) :=
  (Tick.observations_aggregate namespaceName t.now _ _).trans (List.nil_append _)

/-- The errors are counted alike in every order. -/
theorem errors_tickIn (fs : Files) (t : TickState σ) :
    (tickIn server limits namespaceName completion fs t).scraper.snapshot.errors =
      ((record server limits namespaceName fs t).contributions.flatMap (·.fresh)).countP
        Computation.isFailure := by
  have hperm : (((record server limits namespaceName fs t).completedIn
      completion).contributions.flatMap (·.fresh)).Perm
        ((record server limits namespaceName fs t).contributions.flatMap (·.fresh)) := by
    rw [TickRecord.completedIn, List.flatMap_map]
    exact List.Perm.flatMap_left _ fun c _ ↦ completion.perm c.target c.fresh
  rw [← hperm.countP_eq]
  exact (Tick.errors_aggregate namespaceName t.now _ _).trans (Nat.zero_add _)

theorem Faithful.tickIn (h : Faithful targets history t) (hnames : (targets.map (·.name)).Nodup)
    (fs : Files) :
    Faithful targets ((record server limits namespaceName fs t).completedIn completion :: history)
      (tickIn server limits namespaceName completion fs t) := by
  obtain ⟨hplanned, hrefines⟩ := h.begun server limits namespaceName fs
  have hscraped := (h.scrapedWith server limits namespaceName hnames fs).completedIn completion
  -- What the tick knows of those before it does not depend on the order.
  have hrefines : Refines
      (((record server limits namespaceName fs t).completedIn completion).known history)
      ((record server limits namespaceName fs t).completedIn completion).plan
      (reloaded namespaceName fs t).cache := hrefines
  have hnow := le_now_tick server limits namespaceName fs t
  exact h.cons hnow hnow ((targets_tick server limits namespaceName fs t).trans h.attached)
    hplanned (hrefines.tick hscraped (Tick.records_aggregate namespaceName t.now _ _))

theorem reloadRequested_reloaded (fs : Files) (t : TickState σ) :
    (reloaded namespaceName fs t).reloadRequested = false := by
  rw [reloaded, reload]
  rcases t.scraper.store.reload fs t.scraper.reloadRequested with ⟨store, set⟩
  cases set with
  | none => rfl
  | some set => rfl

/-! ## Runs that differ in the order of completion -/

/-- Two states that differ in nothing but what the order of completion leaves behind. -/
structure Matched (known : List Target) (t u : TickState σ) : Prop extends LoadsAlike t u where
  connections : u.connections = t.connections
  now : u.now = t.now
  cache : t.scraper.cache.Same u.scraper.cache
  faithful : ∃ history, Faithful known history t
  faithful' : ∃ history, Faithful known history u

variable {server limits namespaceName completion completion'}

variable (namespaceName) in
/-- The caches that a tick works with. -/
theorem Matched.same_reloaded (h : Matched targets t u) (fs : Files) :
    (reloaded namespaceName fs t).cache.Same (reloaded namespaceName fs u).cache := by
  obtain ⟨-, -, hsame | ⟨-, hcache, hcache'⟩⟩ := h.toLoadsAlike.reloaded namespaceName fs
  · rw [hsame]
    exact .refl _
  · rw [hcache, hcache']
    exact h.cache

variable (server limits namespaceName) in
/-- The targets do the same in both. -/
theorem Matched.scrapeAll_eq (h : Matched targets t u) (fs : Files) :
    (reloaded namespaceName fs u).scrapeAll server limits namespaceName u.now u.connections =
      (reloaded namespaceName fs t).scrapeAll server limits namespaceName t.now t.connections := by
  rw [scrapeAll, scrapeAll, (h.toLoadsAlike.reloaded namespaceName fs).2.1, h.connections, h.now]
  exact List.map_congr_left fun c _ ↦
    Tick.scrapeTarget_of_same (h.same_reloaded namespaceName fs) _ t.now server limits namespaceName c

theorem Matched.contributions_eq (h : Matched targets t u) (fs : Files) :
    (record server limits namespaceName fs u).contributions =
      (record server limits namespaceName fs t).contributions :=
  congrArg (List.map Settled.result) (h.scrapeAll_eq server limits namespaceName fs)

/-- The records that two orders write are the same. -/
theorem Matched.perm_records (h : Matched targets t u) (fs : Files) :
    (((record server limits namespaceName fs u).completedIn completion').contributions.flatMap
      (·.records u.now)).Perm
    (((record server limits namespaceName fs t).completedIn completion).contributions.flatMap
      (·.records t.now)) := by
  have hleft := TickRecord.records_completedIn completion' (record server limits namespaceName fs u)
  have hright := TickRecord.records_completedIn completion (record server limits namespaceName fs t)
  have hnow : (record server limits namespaceName fs u).started =
      (record server limits namespaceName fs t).started := h.now
  rw [h.contributions_eq fs, hnow] at hleft
  rw [h.now]
  exact hleft.trans hright.symm

/-- The caches that two orders leave are the same. -/
theorem Matched.same_cache_tickIn (h : Matched targets t u)
    (hnames : (targets.map (·.name)).Nodup) (fs : Files) :
    (tickIn server limits namespaceName completion fs t).scraper.cache.Same
      (tickIn server limits namespaceName completion' fs u).scraper.cache := by
  obtain ⟨history, hfaithful⟩ := h.faithful
  have hscraped := (hfaithful.scrapedWith server limits namespaceName hnames fs).completedIn
    completion
  rw [cache_tickIn, cache_tickIn]
  exact (h.same_reloaded namespaceName fs).putAll (h.perm_records fs) hscraped.nodup_keys

/-- A tick keeps runs matched, whatever the orders of completion. -/
theorem Matched.tickIn (h : Matched targets t u) (hnames : (targets.map (·.name)).Nodup)
    (fs : Files) :
    Matched targets (tickIn server limits namespaceName completion fs t)
      (tickIn server limits namespaceName completion' fs u) := by
  obtain ⟨hstore, hplan, -⟩ := h.toLoadsAlike.reloaded namespaceName fs
  obtain ⟨history, hfaithful⟩ := h.faithful
  obtain ⟨history', hfaithful'⟩ := h.faithful'
  have hscrapeAll := h.scrapeAll_eq server limits namespaceName fs
  have hconnections : (Scraper.tickIn server limits namespaceName completion' fs u).connections =
      (Scraper.tickIn server limits namespaceName completion fs t).connections :=
    congrArg (List.map Settled.connection) hscrapeAll
  have hrequested : (reloaded namespaceName fs u).reloadRequested =
      (reloaded namespaceName fs t).reloadRequested := by
    rw [reloadRequested_reloaded, reloadRequested_reloaded]
  have hnow : (Scraper.tickIn server limits namespaceName completion' fs u).now =
      (Scraper.tickIn server limits namespaceName completion fs t).now := by
    have hend := congrArg (fun settled ↦ (List.map Settled.now settled).foldl max u.now) hscrapeAll
    exact hend.trans (by rw [h.now]; rfl)
  exact ⟨⟨hstore, hplan, hrequested, congrArg (List.map (·.target)) hconnections⟩, hconnections,
    hnow, h.same_cache_tickIn hnames fs,
    ⟨_, hfaithful.tickIn server limits namespaceName completion hnames fs⟩,
    ⟨_, hfaithful'.tickIn server limits namespaceName completion' hnames fs⟩⟩

/-- Between two ticks the same happens in both. -/
theorem Matched.between (h : Matched targets t u) {t' u' : TickState σ}
    (hscraper : t'.scraper = t.scraper ∧ u'.scraper = u.scraper ∨
      t'.scraper = t.scraper.requestReload ∧ u'.scraper = u.scraper.requestReload)
    (hconnections : u'.connections = t'.connections)
    (htargets : t'.connections.map (·.target) = t.connections.map (·.target))
    (hsame : u'.now = t'.now) (hnow : t.now ≤ t'.now) : Matched targets t' u' := by
  obtain ⟨history, hfaithful⟩ := h.faithful
  obtain ⟨history', hfaithful'⟩ := h.faithful'
  have htargets' : u'.connections.map (·.target) = u.connections.map (·.target) := by
    rw [hconnections, h.connections, htargets]
  have hnow' : u.now ≤ u'.now := by
    rw [h.now, hsame]
    exact hnow
  have hloads : LoadsAlike t' u' ∧ t'.scraper.cache.Same u'.scraper.cache := by
    rcases hscraper with ⟨ht, hu⟩ | ⟨ht, hu⟩
    · rw [ht, hu]
      exact ⟨⟨by rw [ht, hu, h.store], by rw [ht, hu, h.plan], by rw [ht, hu, h.requested],
        congrArg _ hconnections⟩, h.cache⟩
    · rw [ht, hu]
      exact ⟨⟨by rw [ht, hu]; exact h.store, by rw [ht, hu]; exact h.plan, by rw [ht, hu]; rfl,
        congrArg _ hconnections⟩, h.cache⟩
  exact ⟨hloads.1, hconnections, hsame, hloads.2,
    ⟨history, hfaithful.between (hscraper.imp And.left And.left) htargets hnow⟩,
    ⟨history', hfaithful'.between (hscraper.imp And.right And.right) htargets' hnow'⟩⟩

variable (server limits namespaceName) in
/-- Two runs from one state that the exporter comes to. Between two ticks the same happens in both,
and their ticks differ in the order of completion alone. -/
inductive Paired (targets : List Target) : TickState σ → TickState σ → Prop
  | start {history : List TickRecord} {t : TickState σ}
      (hran : Ran server limits namespaceName targets history t) : Paired targets t t
  | between {t u t' u' : TickState σ} (hpaired : Paired targets t u)
      (hscraper : t'.scraper = t.scraper ∧ u'.scraper = u.scraper ∨
        t'.scraper = t.scraper.requestReload ∧ u'.scraper = u.scraper.requestReload)
      (hconnections : u'.connections = t'.connections)
      (htargets : t'.connections.map (·.target) = t.connections.map (·.target))
      (hsame : u'.now = t'.now) (hnow : t.now ≤ t'.now) : Paired targets t' u'
  | tick {t u : TickState σ} (hpaired : Paired targets t u) (fs : Files)
      (completion completion' : Tick.Completion) :
      Paired targets (tickIn server limits namespaceName completion fs t)
        (tickIn server limits namespaceName completion' fs u)

theorem Paired.matched (hnames : (targets.map (·.name)).Nodup)
    (h : Paired server limits namespaceName targets t u) : Matched targets t u := by
  induction h with
  | start hran =>
    have hfaithful := hran.faithful hnames
    exact ⟨⟨rfl, rfl, rfl, rfl⟩, rfl, rfl, .refl _, ⟨_, hfaithful⟩, ⟨_, hfaithful⟩⟩
  | between _ hscraper hconnections htargets hsame hnow ih =>
    exact ih.between hscraper hconnections htargets hsame hnow
  | tick _ fs completion completion' ih => exact ih.tickIn hnames fs

/-- Two ticks agree on all that does not name an order. -/
structure AgreeInAnyOrder (server : Clocked σ) (limits : ConnectionLimits) (namespaceName : String)
    (fs : Files) (completion completion' : Tick.Completion) (t u : TickState σ) : Prop where
  /-- The same definitions are due. -/
  due : ∀ target, dueAt namespaceName fs u target = dueAt namespaceName fs t target
  cache : (Scraper.tickIn server limits namespaceName completion fs t).scraper.cache.Same
    (Scraper.tickIn server limits namespaceName completion' fs u).scraper.cache
  errors : (Scraper.tickIn server limits namespaceName completion' fs u).scraper.snapshot.errors =
    (Scraper.tickIn server limits namespaceName completion fs t).scraper.snapshot.errors
  published : Tick.PublishedBy namespaceName (reloaded namespaceName fs t).plan
    (reloaded namespaceName fs t).cache
    ((record server limits namespaceName fs t).completedIn completion).contributions
    (Scraper.tickIn server limits namespaceName completion fs t).scraper.snapshot.observations
  published' : Tick.PublishedBy namespaceName (reloaded namespaceName fs u).plan
    (reloaded namespaceName fs u).cache
    ((record server limits namespaceName fs u).completedIn completion').contributions
    (Scraper.tickIn server limits namespaceName completion' fs u).scraper.snapshot.observations
  /-- Target by target the observations are the same, and those of one definition are so in the
  same order. -/
  contributed : List.Forall₂ (fun c c' : Contribution ↦ c'.target = c.target ∧ c'.up = c.up ∧
      (c'.observations namespaceName).Perm (c.observations namespaceName) ∧
      ∀ d, c'.publishes (reloaded namespaceName fs u).cache d =
        c.publishes (reloaded namespaceName fs t).cache d)
    ((record server limits namespaceName fs t).completedIn completion).contributions
    ((record server limits namespaceName fs u).completedIn completion').contributions
  /-- That is the order of the rows. -/
  inRowOrder : List.Forall₂ (fun (connection : Connection σ) (c : Contribution) ↦ c.up = true →
      ∀ d reply, Keyed.get? (Tick.replies server limits (reloaded namespaceName fs t).plan
          (reloaded namespaceName fs t).cache t.now connection) d = some reply →
        c.publishes (reloaded namespaceName fs t).cache d =
          (Scrape.rowsOf reply d connection.target.settings.queryTimeout).flatMap fun row ↦
            Scrape.convertRow row d namespaceName connection.target.labels)
    t.connections ((record server limits namespaceName fs t).completedIn completion).contributions

theorem Faithful.publishedBy_tickIn (h : Faithful targets history t)
    (hnames : (targets.map (·.name)).Nodup) (fs : Files) :
    Tick.PublishedBy namespaceName (reloaded namespaceName fs t).plan
      (reloaded namespaceName fs t).cache
      ((record server limits namespaceName fs t).completedIn completion).contributions
      (Scraper.tickIn server limits namespaceName completion fs t).scraper.snapshot.observations := by
  have hscraped := (h.scrapedWith server limits namespaceName hnames fs).completedIn completion
  rw [observations_tickIn]
  exact hscraped.publishedBy namespaceName

/-- What is published for a definition that was computed stands in row order. -/
theorem Faithful.publishes_inRowOrder (h : Faithful targets history t)
    (hnames : (targets.map (·.name)).Nodup) (fs : Files) {connection : Connection σ}
    (hmem : connection ∈ t.connections)
    (hup : (Tick.scrapeTarget server limits namespaceName (reloaded namespaceName fs t).plan
      (reloaded namespaceName fs t).cache t.now connection).result.up = true)
    {d : Definition} {reply : Reply (List Row)}
    (hreply : Keyed.get? (Tick.replies server limits (reloaded namespaceName fs t).plan
      (reloaded namespaceName fs t).cache t.now connection) d = some reply) :
    ((Tick.scrapeTarget server limits namespaceName (reloaded namespaceName fs t).plan
        (reloaded namespaceName fs t).cache t.now connection).result.completedIn
          completion).publishes (reloaded namespaceName fs t).cache d =
      (Scrape.rowsOf reply d connection.target.settings.queryTimeout).flatMap fun row ↦
        Scrape.convertRow row d namespaceName connection.target.labels := by
  have hscraped := h.scrapedWith server limits namespaceName hnames fs
  have hanswer := Tick.answer?_scrapeTarget server limits (reloaded namespaceName fs t).plan
    (reloaded namespaceName fs t).cache t.now connection (hscraped.ids _) namespaceName hup d
  have hc : (Tick.scrapeTarget server limits namespaceName (reloaded namespaceName fs t).plan
      (reloaded namespaceName fs t).cache t.now connection).result ∈
        (record server limits namespaceName fs t).contributions :=
    (mem_contributions_record server limits namespaceName).2 ⟨connection, hmem, rfl⟩
  rw [hreply, Option.map_some] at hanswer
  rw [Contribution.publishes_completedIn completion (hscraped.nodup_queried hc),
    Contribution.publishes, hanswer]
  exact Scrape.observations_ofReply reply d namespaceName _ _

/-- However often queries were completed in another order before, a tick decides alike, leaves the
same cache, counts the same errors, and publishes the same. -/
theorem Paired.tick_agrees (hnames : (targets.map (·.name)).Nodup)
    (h : Paired server limits namespaceName targets t u) (fs : Files)
    (completion completion' : Tick.Completion) :
    AgreeInAnyOrder server limits namespaceName fs completion completion' t u := by
  have hmatched := h.matched hnames
  obtain ⟨history, hfaithful⟩ := hmatched.faithful
  obtain ⟨history', hfaithful'⟩ := hmatched.faithful'
  have hscraped := hfaithful.scrapedWith server limits namespaceName hnames fs
  have hsame := hmatched.same_reloaded namespaceName fs
  refine ⟨fun target ↦ ?_, hmatched.same_cache_tickIn hnames fs, ?_,
    hfaithful.publishedBy_tickIn hnames fs, hfaithful'.publishedBy_tickIn hnames fs, ?_, ?_⟩
  · rw [dueAt, dueAt, (hmatched.toLoadsAlike.reloaded namespaceName fs).2.1, hmatched.now,
      Tick.dueDefinitions_of_same hsame]
  · rw [errors_tickIn, errors_tickIn, hmatched.contributions_eq fs]
  · rw [TickRecord.completedIn, TickRecord.completedIn, hmatched.contributions_eq fs,
      List.forall₂_map_left_iff, List.forall₂_map_right_iff, List.forall₂_same]
    intro c hc
    refine ⟨rfl, rfl, ?_, fun d ↦ ?_⟩
    · exact (c.observations_completedIn completion' namespaceName).trans
        (c.observations_completedIn completion namespaceName).symm
    · rw [Tick.publishes_of_same hsame,
        Contribution.publishes_completedIn completion' (hscraped.nodup_queried hc),
        Contribution.publishes_completedIn completion (hscraped.nodup_queried hc)]
  · rw [TickRecord.completedIn, record]
    simp only [scrapeAll, List.map_map, List.forall₂_map_right_iff, List.forall₂_same]
    intro connection hmem hup d reply hreply
    exact hfaithful.publishes_inRowOrder hnames fs hmem hup hreply

/-- The last query is completed first. -/
def reversed : Tick.Completion :=
  ⟨fun _ computations ↦ computations.reverse, fun _ computations ↦ computations.reverse_perm⟩

/-- The ticks of two targets with two queries each, as they come in one run and the other way round
in the other one. -/
theorem tick_agrees_reversed :
    ([pairTarget "p", pairTarget "q"].map (·.name)).Nodup ∧
      Paired Rehearsal.server.steady {} "dbmon" [pairTarget "p", pairTarget "q"]
        (tickIn Rehearsal.server.steady {} "dbmon" .asItComes pairFiles (beforePair answered))
        (tickIn Rehearsal.server.steady {} "dbmon" reversed pairFiles (beforePair answered)) ∧
      ((beforePair answered).connections.map fun c ↦
        (Tick.replies Rehearsal.server.steady {}
          (reloaded "dbmon" pairFiles (beforePair answered)).plan .empty .zero c).map (·.1.id)) =
        [["c[x]", "c[y]"], ["c[x]", "c[y]"]] ∧
      AgreeInAnyOrder Rehearsal.server.steady {} "dbmon" pairFiles reversed .asItComes
        (tickIn Rehearsal.server.steady {} "dbmon" .asItComes pairFiles (beforePair answered))
        (tickIn Rehearsal.server.steady {} "dbmon" reversed pairFiles (beforePair answered)) := by
  have hpaired : Paired Rehearsal.server.steady {} "dbmon" [pairTarget "p", pairTarget "q"]
      (tickIn Rehearsal.server.steady {} "dbmon" .asItComes pairFiles (beforePair answered))
      (tickIn Rehearsal.server.steady {} "dbmon" reversed pairFiles (beforePair answered)) :=
    .tick (.start (ran_beforePair answered)) pairFiles .asItComes reversed
  exact ⟨nodup_names_pair, hpaired, by decide +kernel,
    hpaired.tick_agrees nodup_names_pair pairFiles reversed .asItComes⟩

end Scraper

end Telemetry
