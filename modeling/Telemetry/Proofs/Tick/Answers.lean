import Telemetry.Proofs.Tick.Accounting

/-!
# What one definition gets in a tick

Everything that a tick does with a definition of a target is determined by the answer to its query,
if it was computed, and by what the cache held for it, if it was not: what is published for it
(`Contribution.publishes`) and what is kept for it (`TickRecord.ScrapedWith.cached?_congr`). So two
ticks that give a definition the same answer do the same with it, whatever else happens in them.

The observations of a contribution are those of its definitions, in some order, behind the one that
says whether the target is up (`Tick.ScrapedFrom.perm_observations`). Those of one definition stand
together, and they stand in the order of the rows that they come from.
-/

namespace Telemetry

namespace Contribution

/-- What came of the query of a definition, if the definition was computed. -/
def answer? (c : Contribution) (d : Definition) : Option (Except ScrapeError (List Observation)) :=
  Keyed.get? (c.fresh.map fun k ↦ (k.definition, k.result)) d

/-- What is published for a definition: what was computed, or else what the cache held. -/
def publishes (cache : MetricCache) (c : Contribution) (d : Definition) : List Observation :=
  match c.answer? d with
  | some result => (Computation.mk d result).observations
  | none => if c.up then ((cache.cached? c.target.name d).map (·.observations)).getD [] else []

variable {cache : MetricCache} {c : Contribution} {d : Definition}
  {result : Except ScrapeError (List Observation)}

theorem map_fst_answers (c : Contribution) :
    (c.fresh.map fun k ↦ (k.definition, k.result)).map (·.1) = c.queried := by
  rw [queried, List.map_map]
  rfl

theorem mem_fresh_of_answer? (h : c.answer? d = some result) : ⟨d, result⟩ ∈ c.fresh := by
  obtain ⟨⟨d', result'⟩, hk, heq⟩ := List.mem_map.1 (Keyed.mem_of_get? h)
  obtain ⟨rfl, rfl⟩ := Prod.mk.inj heq
  exact hk

theorem answer?_of_mem_fresh (hnodup : c.queried.Nodup) {k : Computation} (hk : k ∈ c.fresh) :
    c.answer? k.definition = some k.result := by
  rw [← map_fst_answers] at hnodup
  exact (Keyed.get?_eq_some_iff hnodup).2 (List.mem_map_of_mem hk)

theorem answer?_eq_none_iff : c.answer? d = none ↔ d ∉ c.queried := by
  rw [answer?, Keyed.get?_eq_none_iff, map_fst_answers]

theorem publishes_of_mem_fresh (hnodup : c.queried.Nodup) {k : Computation} (hk : k ∈ c.fresh) :
    c.publishes cache k.definition = k.observations := by
  rw [publishes, answer?_of_mem_fresh hnodup hk]

theorem publishes_of_not_mem_queried (hup : c.up = true) (h : d ∉ c.queried) :
    c.publishes cache d = ((cache.cached? c.target.name d).map (·.observations)).getD [] := by
  rw [publishes, answer?_eq_none_iff.2 h, if_pos hup]

/-- What is published for a definition was computed, or comes from the cache. -/
theorem cases_of_mem_publishes {o : Observation} (h : o ∈ c.publishes cache d) :
    (∃ k ∈ c.fresh, k.definition = d ∧ o ∈ k.observations) ∨
      ∃ record, cache.cached? c.target.name d = some record ∧ o ∈ record.observations := by
  rw [publishes] at h
  cases hanswer : c.answer? d with
  | some result =>
    rw [hanswer] at h
    exact .inl ⟨_, mem_fresh_of_answer? hanswer, rfl, h⟩
  | none =>
    simp only [hanswer] at h
    split at h
    · cases hcached : cache.cached? c.target.name d with
      | none => simp [hcached] at h
      | some record => exact .inr ⟨record, rfl, by simpa [hcached] using h⟩
    · cases h

theorem publishes_congr {c' : Contribution} (htarget : c'.target = c.target) (hup : c'.up = c.up)
    (hanswer : c'.answer? d = c.answer? d) : c'.publishes cache d = c.publishes cache d := by
  rw [publishes, publishes, htarget, hup, hanswer]

theorem flatMap_publishes_queried (cache : MetricCache) (hnodup : c.queried.Nodup) :
    c.queried.flatMap (c.publishes cache) = c.fresh.flatMap Computation.observations := by
  rw [queried, List.flatMap_map]
  exact List.flatMap_congr fun k hk ↦ publishes_of_mem_fresh hnodup hk

end Contribution

namespace Scrape

/-- The rows that came for a definition in time. -/
def rowsOf (reply : Reply (List Row)) (d : Definition) (default : Duration) : List Row :=
  match reply.within (deadline d default) with
  | .ok rows => rows
  | .error _ => []

/-- What is published for a definition that was computed stands in row order. -/
theorem observations_ofReply (reply : Reply (List Row)) (d : Definition) (namespaceName : String)
    (constant : List (String × String)) (default : Duration) :
    (Computation.mk d (ofReply reply d namespaceName constant default)).observations =
      (rowsOf reply d default).flatMap fun row ↦ convertRow row d namespaceName constant := by
  rw [Computation.observations, ofReply, rowsOf]
  cases reply.within (deadline d default) with
  | error e => rfl
  | ok rows =>
    dsimp only
    rw [convert]
    by_cases hrows : rows.isEmpty = true
    · rw [if_pos hrows, List.isEmpty_iff.1 hrows]
      rfl
    · rw [if_neg hrows]
      dsimp only
      by_cases hempty : (rows.flatMap fun row ↦ convertRow row d namespaceName constant).isEmpty
      · rw [if_pos hempty, List.isEmpty_iff.1 hempty]
      · rw [if_neg hempty]

end Scrape

namespace Tick

/-! ## One target -/

theorem flatten_filterMap {α β : Type} (f : α → Option (List β)) (l : List α) :
    (l.filterMap f).flatten = l.flatMap fun a ↦ (f a).getD [] := by
  induction l with
  | nil => rfl
  | cons a l ih =>
    rw [List.filterMap_cons, List.flatMap_cons, ← ih]
    cases f a with
    | none => rfl
    | some b => rfl

namespace ScrapedFrom

variable {plan : Plan} {cache : MetricCache} {started : Instant} {target : Target}
  {c : Contribution} {d : Definition}

theorem not_mem_queried (h : ScrapedFrom plan cache started target c)
    (hdue : cache.isDue target.name d started = false) : d ∉ c.queried := by
  intro hqueried
  cases hup : c.up with
  | true => exact absurd ((h.mem_queried_iff hup).1 hqueried).2 (by rw [hdue]; decide)
  | false =>
    rw [Contribution.queried, (h.silent hup).1] at hqueried
    cases hqueried

theorem answer?_of_down (h : ScrapedFrom plan cache started target c) (hdown : c.up = false)
    (d : Definition) : c.answer? d = none := by
  rw [Contribution.answer?_eq_none_iff, Contribution.queried, (h.silent hdown).1]
  exact List.not_mem_nil

theorem publishes_of_down (h : ScrapedFrom plan cache started target c) (hdown : c.up = false)
    (d : Definition) : c.publishes cache d = [] := by
  rw [Contribution.publishes, h.answer?_of_down hdown, hdown]
  rfl

/-- What is not due is published as the cache holds it. -/
theorem flatten_cached (h : ScrapedFrom plan cache started target c) (hup : c.up = true) :
    c.cached.flatten = ((plan.definitionsFor target.name).filter fun d ↦
      !cache.isDue target.name d started).flatMap (c.publishes cache) := by
  rw [h.cached hup, servedFromCache, flatten_filterMap]
  refine List.flatMap_congr fun d hd ↦ ?_
  have hdue : cache.isDue target.name d started = false := by simpa using (List.mem_filter.1 hd).2
  rw [Contribution.publishes_of_not_mem_queried hup (h.not_mem_queried hdue), h.belongs]

/-- A contribution publishes whether the target is up, and what it publishes for each of its
definitions. -/
theorem perm_observations (h : ScrapedFrom plan cache started target c)
    (hnodup : c.queried.Nodup) (namespaceName : String) :
    (c.observations namespaceName).Perm
      (upObservation namespaceName target c.up ::
        (plan.definitionsFor target.name).flatMap (c.publishes cache)) := by
  rw [Contribution.observations, h.belongs]
  refine .cons _ ?_
  cases hup : c.up with
  | true =>
    rw [h.flatten_cached hup, ← Contribution.flatMap_publishes_queried cache hnodup]
    refine ((h.queried hup).flatMap_right _).append_left _ |>.trans ?_
    rw [dueDefinitions, ← List.flatMap_append]
    refine List.Perm.flatMap_right _ (List.perm_append_comm.trans ?_)
    exact List.filter_append_perm _ _
  | false =>
    obtain ⟨hfresh, hcached⟩ := h.silent hup
    rw [hfresh, hcached, List.flatMap_eq_nil_iff.2 fun d _ ↦ h.publishes_of_down hup d]
    exact .nil

theorem infix_flatMap {α β : Type} {f : α → List β} {l : List α} {a : α} (h : a ∈ l) :
    f a <:+: l.flatMap f :=
  List.infix_of_mem_flatten (List.mem_map_of_mem h)

/-- What is published for a definition stands together. -/
theorem publishes_together (h : ScrapedFrom plan cache started target c) (namespaceName : String)
    (hd : d ∈ plan.definitionsFor target.name) :
    c.publishes cache d <:+: c.observations namespaceName := by
  rw [Contribution.observations]
  refine List.infix_cons ?_
  cases hanswer : c.answer? d with
  | some result =>
    rw [Contribution.publishes, hanswer]
    have hcomputed : (Computation.mk d result).observations <:+:
        c.fresh.flatMap Computation.observations :=
      infix_flatMap (Contribution.mem_fresh_of_answer? hanswer)
    exact hcomputed.trans (List.suffix_append _ _).isInfix
  | none =>
    cases hup : c.up with
    | false =>
      rw [h.publishes_of_down hup]
      exact List.nil_infix
    | true =>
      have hnot := Contribution.answer?_eq_none_iff.1 hanswer
      have hdue : cache.isDue target.name d started = false := Bool.eq_false_iff.2 fun hdue ↦
        hnot ((h.mem_queried_iff hup).2 ⟨hd, hdue⟩)
      have hserved : d ∈ (plan.definitionsFor target.name).filter fun d ↦
          !cache.isDue target.name d started := List.mem_filter.2 ⟨hd, by rw [hdue]; rfl⟩
      rw [h.flatten_cached hup]
      exact (infix_flatMap hserved).trans (List.prefix_append _ _).isInfix

end ScrapedFrom

/-! ### Answers and replies -/

section Replies

variable {σ : Type} (server : Clocked σ) (limits : ConnectionLimits) (plan : Plan)
  (cache : MetricCache) (started : Instant) (c : Connection σ)

/-- The replies to the queries of a target that passed its check. -/
def replies : List (Definition × Reply (List Row)) :=
  (dispatch server (c.check server limits started).connection.session
    (c.check server limits started).now (dueDefinitions plan cache c.target.name started)
    (c.check server limits started).connection.database).1

/-- The health of a target after a tick is that after its check. -/
theorem health_scrapeTarget (namespaceName : String) :
    (scrapeTarget server limits namespaceName plan cache started c).connection.health =
      (c.check server limits started).connection.health := by
  rcases scrapeTarget_cases server limits namespaceName plan cache started c with h | ⟨-, h⟩
  · rw [h]
  · rw [h]
    rfl

/-- A target is up when it passed its check and no backoff is under way. -/
theorem up_scrapeTarget_iff_isValidAt (namespaceName : String) :
    (scrapeTarget server limits namespaceName plan cache started c).result.up = true ↔
      (c.check server limits started).result = .healthy ∧
        (c.check server limits started).connection.health.isValidAt
          (c.check server limits started).now = true := by
  rw [up_scrapeTarget_iff, Connection.acquire]
  refine and_congr_right fun _ ↦ ?_
  by_cases hvalid : (c.check server limits started).connection.health.isValidAt
      (c.check server limits started).now = true
  · simp [hvalid]
  · simp [hvalid]

theorem nodup_dueDefinitions
    (hids : ((plan.definitionsFor c.target.name).map Definition.id).Nodup) :
    (dueDefinitions plan cache c.target.name started).Nodup :=
  (List.Nodup.of_map Definition.id hids).sublist List.filter_sublist

/-- The answer for a definition comes from the reply to its own query. -/
theorem answer?_scrapeTarget
    (hids : ((plan.definitionsFor c.target.name).map Definition.id).Nodup)
    (namespaceName : String)
    (hup : (scrapeTarget server limits namespaceName plan cache started c).result.up = true)
    (d : Definition) :
    (scrapeTarget server limits namespaceName plan cache started c).result.answer? d =
      (Keyed.get? (replies server limits plan cache started c) d).map fun reply ↦
        Scrape.ofReply reply d namespaceName c.target.labels c.target.settings.queryTimeout := by
  have hperm := perm_computations_scrapeTarget server limits namespaceName plan cache started c hup
  have hnodup : (((scrapeTarget server limits namespaceName plan cache started c).result.fresh.map
      fun k ↦ (k.definition, k.result)).map (·.1)).Nodup := by
    rw [(hperm.map (·.1)).nodup_iff, List.map_map]
    change (List.map (·.1) (replies server limits plan cache started c)).Nodup
    rw [replies, map_fst_dispatch]
    exact nodup_dueDefinitions plan cache started c hids
  rw [Contribution.answer?, Keyed.get?_of_perm hperm hnodup]
  exact Keyed.get?_map (fun d reply ↦
    Scrape.ofReply reply d namespaceName c.target.labels c.target.settings.queryTimeout) _ d

end Replies

end Tick

/-! ## One tick -/

/-- What a tick published for its contributions: whether each target is up, and what each of its
definitions gets, all that is for one definition together. -/
structure Tick.PublishedBy (namespaceName : String) (plan : Plan) (cache : MetricCache)
    (contributions : List Contribution) (observations : List Observation) : Prop where
  whole : observations = contributions.flatMap (·.observations namespaceName)
  parts : ∀ c ∈ contributions, (c.observations namespaceName).Perm
    (upObservation namespaceName c.target c.up ::
      (plan.definitionsFor c.target.name).flatMap (c.publishes cache))
  together : ∀ c ∈ contributions, ∀ d ∈ plan.definitionsFor c.target.name,
    c.publishes cache d <:+: c.observations namespaceName

/-! ## Two ticks -/

namespace TickRecord

variable {r r' : TickRecord} {cache cache' after after' : MetricCache}

theorem ScrapedWith.computed_iff_answer? (h : r.ScrapedWith cache) {target : String}
    {d : Definition} {observations : List Observation} :
    r.Computed target d observations ↔ ∃ c ∈ r.contributions, c.target.name = target ∧
      ∃ result, c.answer? d = some result ∧
        (Computation.mk d result).success? = some observations := by
  refine exists_congr fun c ↦ and_congr_right fun hc ↦ and_congr_right fun _ ↦ ?_
  constructor
  · rintro ⟨k, hk, rfl, hsuccess⟩
    exact ⟨k.result, Contribution.answer?_of_mem_fresh (h.nodup_queried hc) hk, hsuccess⟩
  · rintro ⟨result, hanswer, hsuccess⟩
    exact ⟨_, Contribution.mem_fresh_of_answer? hanswer, rfl, hsuccess⟩

/-- Two contributions of one target answer a definition alike. -/
def AnswersAlike (target : String) (d : Definition) (c c' : Contribution) : Prop :=
  c'.target = c.target ∧ (c.target.name = target → c'.answer? d = c.answer? d)

/-- Ticks that answer a definition alike compute it alike. -/
theorem ScrapedWith.computed_congr (h : r.ScrapedWith cache) (h' : r'.ScrapedWith cache')
    {target : String} {d : Definition}
    (halike : List.Forall₂ (AnswersAlike target d) r.contributions r'.contributions)
    {observations : List Observation} :
    r'.Computed target d observations ↔ r.Computed target d observations := by
  rw [h.computed_iff_answer?, h'.computed_iff_answer?]
  generalize r.contributions = contributions at halike ⊢
  generalize r'.contributions = contributions' at halike ⊢
  induction halike with
  | nil => simp
  | cons hc _ ih =>
    obtain ⟨htarget, hanswer⟩ := hc
    simp only [List.exists_mem_cons_iff, ih, htarget]
    refine or_congr_left (and_congr_right fun hname ↦ ?_)
    rw [hanswer hname]

/-- Ticks that begin with the same record of a definition, and answer it alike, leave the same
record of it. -/
theorem ScrapedWith.cached?_congr (h : r.ScrapedWith cache) (h' : r'.ScrapedWith cache')
    (hafter : after.records =
      Keyed.putAll cache.records (r.contributions.flatMap (·.records r.started)))
    (hafter' : after'.records =
      Keyed.putAll cache'.records (r'.contributions.flatMap (·.records r'.started)))
    (hplan : r'.plan = r.plan) (hstarted : r'.started = r.started) {target : String}
    {d : Definition} (hd : d ∈ r.plan.definitionsFor target)
    (hcached : cache'.cached? target d = cache.cached? target d)
    (halike : List.Forall₂ (AnswersAlike target d) r.contributions r'.contributions) :
    after'.cached? target d = after.cached? target d := by
  by_cases hcomputed : ∃ observations, r.Computed target d observations
  · obtain ⟨observations, hcomputed⟩ := hcomputed
    rw [h.cached?_of_computed hafter hcomputed, ← hstarted]
    exact h'.cached?_of_computed hafter' ((h.computed_congr h' halike).2 hcomputed)
  · have hnot := not_exists.1 hcomputed
    rw [h.cached?_of_not_computed hafter hd hnot, ← hcached]
    refine h'.cached?_of_not_computed hafter' (hplan ▸ hd) fun observations hcomputed ↦ ?_
    exact hnot observations ((h.computed_congr h' halike).1 hcomputed)

theorem ScrapedWith.publishedBy (h : r.ScrapedWith cache) (namespaceName : String) :
    Tick.PublishedBy namespaceName r.plan cache r.contributions
      (r.contributions.flatMap (·.observations namespaceName)) where
  whole := rfl
  parts c hc := (h.each c hc).perm_observations (h.nodup_queried hc) namespaceName
  together c hc _ hd := (h.each c hc).publishes_together namespaceName hd

end TickRecord

/-- A tick of a run publishes what its contributions do. -/
theorem Scraper.Faithful.publishedBy {σ : Type} (server : Clocked σ) (limits : ConnectionLimits)
    (namespaceName : String) {targets : List Target} {history : List TickRecord}
    {t : TickState σ} (h : Faithful targets history t) (hnames : (targets.map (·.name)).Nodup)
    (fs : Files) :
    Tick.PublishedBy namespaceName (reloaded namespaceName fs t).plan
      (reloaded namespaceName fs t).cache (record server limits namespaceName fs t).contributions
      (Scraper.tick server limits namespaceName fs t).scraper.snapshot.observations := by
  have hwhole : (Scraper.tick server limits namespaceName fs t).scraper.snapshot.observations =
      (record server limits namespaceName fs t).contributions.flatMap
        (·.observations namespaceName) :=
    (Tick.observations_aggregate namespaceName t.now _ _).trans (List.nil_append _)
  rw [hwhole]
  exact (h.scrapedWith server limits namespaceName hnames fs).publishedBy namespaceName

/-! ## The next tick -/

namespace Scraper

variable {σ : Type} {namespaceName : String} {t t' : TickState σ} {target : String}
  {d : Definition}

/-- Two states from which a tick loads the definitions alike. -/
structure LoadsAlike (t t' : TickState σ) : Prop where
  store : t'.scraper.store = t.scraper.store
  plan : t'.scraper.plan = t.scraper.plan
  requested : t'.scraper.reloadRequested = t.scraper.reloadRequested
  targets : t'.connections.map (·.target) = t.connections.map (·.target)

variable (namespaceName) in
/-- Either the plan and the cache are replaced in both, or they stay in both. -/
theorem LoadsAlike.reloaded (h : LoadsAlike t t') (fs : Files) :
    (reloaded namespaceName fs t').store = (reloaded namespaceName fs t).store ∧
      (reloaded namespaceName fs t').plan = (reloaded namespaceName fs t).plan ∧
      ((reloaded namespaceName fs t').cache = (reloaded namespaceName fs t).cache ∨
        (reloaded namespaceName fs t).plan = t.scraper.plan ∧
          (reloaded namespaceName fs t).cache = t.scraper.cache ∧
          (reloaded namespaceName fs t').cache = t'.scraper.cache) := by
  rw [Scraper.reloaded, Scraper.reloaded, reload, reload, h.store, h.requested, h.targets]
  rcases t.scraper.store.reload fs t.scraper.reloadRequested with ⟨store, set⟩
  cases set with
  | none => exact ⟨rfl, h.plan, .inr ⟨rfl, rfl, rfl⟩⟩
  | some set => exact ⟨rfl, rfl, .inl rfl⟩

/-- What is planned keeps a common record. -/
theorem LoadsAlike.cached?_reloaded (h : LoadsAlike t t') (fs : Files)
    (hcached : d ∈ t.scraper.plan.definitionsFor target →
      t'.scraper.cache.cached? target d = t.scraper.cache.cached? target d)
    (hd : d ∈ (Scraper.reloaded namespaceName fs t).plan.definitionsFor target) :
    (Scraper.reloaded namespaceName fs t').cache.cached? target d =
      (Scraper.reloaded namespaceName fs t).cache.cached? target d := by
  obtain ⟨-, -, hsame | ⟨hplan, hcache, hcache'⟩⟩ := h.reloaded namespaceName fs
  · rw [hsame]
  · rw [hcache, hcache']
    exact hcached (hplan ▸ hd)

/-- The definitions that are due for a target in a tick which begins in some state. -/
def dueAt (namespaceName : String) (fs : Files) (t : TickState σ) (target : String) :
    List Definition :=
  Tick.dueDefinitions (Scraper.reloaded namespaceName fs t).plan
    (Scraper.reloaded namespaceName fs t).cache target t.now

/-- A definition with a common record is due in both states, or in neither. -/
theorem LoadsAlike.mem_dueAt_iff (h : LoadsAlike t t') (hnow : t'.now = t.now) (fs : Files)
    (hcached : d ∈ t.scraper.plan.definitionsFor target →
      t'.scraper.cache.cached? target d = t.scraper.cache.cached? target d) :
    d ∈ dueAt namespaceName fs t' target ↔ d ∈ dueAt namespaceName fs t target := by
  rw [dueAt, dueAt, Tick.dueDefinitions, Tick.dueDefinitions, List.mem_filter, List.mem_filter,
    (h.reloaded namespaceName fs).2.1, hnow]
  refine and_congr_right fun hd ↦ ?_
  rw [MetricCache.isDue_congr (h.cached?_reloaded fs hcached hd)]

end Scraper

end Telemetry
