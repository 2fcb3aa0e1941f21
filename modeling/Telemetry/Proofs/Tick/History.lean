import Mathlib.Data.List.Forall2
import Mathlib.Data.Prod.Basic
import Telemetry.Proofs.Definition.Identity
import Telemetry.Proofs.Tick.Aggregate
import Telemetry.Proofs.Tick.Contribution
import Telemetry.Rehearsal

/-!
# The ticks of a run

What a tick asks of its targets, and what it serves from the cache, is determined by the ticks
before it (`Ran.tick_follows`). A definition is asked for unless one of the ticks since its set was
loaded computed it, and the last of those that did began no longer ago than its interval; what is
served in its place is what that tick computed.

A history has the newest tick first. It begins when the exporter starts, and between two ticks
anything may happen to the files, to the sessions and to the health of the targets.

## The invariant

`Refines` says that the cache holds, for each definition of the plan, what the last tick that
computed it since the plan was made got from it. A tick that loads the definitions again begins
with an empty cache and, as far as the cache is concerned, with an empty history
(`TickRecord.known`).
-/

namespace Telemetry

/-- What happened in a tick. -/
structure TickRecord where
  started : Instant
  /-- The definitions were loaded again, and the plan replaced, when the tick began. -/
  reloaded : Bool
  plan : Plan
  contributions : List Contribution

namespace TickRecord

/-- The tick computed a definition for a target, and got these observations. -/
def Computed (r : TickRecord) (target : String) (d : Definition)
    (observations : List Observation) : Prop :=
  ∃ c ∈ r.contributions, c.target.name = target ∧
    ∃ k ∈ c.fresh, k.definition = d ∧ k.success? = some observations

/-- What the tick knows of the ticks before it: nothing if its plan is a new one. -/
def known (r : TickRecord) (history : List TickRecord) : List TickRecord :=
  if r.reloaded then [] else history

theorem mem_of_mem_known {r r' : TickRecord} {history : List TickRecord}
    (h : r' ∈ r.known history) : r' ∈ history := by
  rw [known] at h
  split at h
  · cases h
  · exact h

end TickRecord

/-- The last tick that computed a definition for a target, of those since the definitions were
last loaded, and what it got. -/
def LastComputed (history : List TickRecord) (target : String) (d : Definition) (r : TickRecord)
    (observations : List Observation) : Prop :=
  ∃ later earlier, history = later ++ r :: earlier ∧ r.Computed target d observations ∧
    ∀ r' ∈ later, r'.reloaded = false ∧ ∀ observations', ¬ r'.Computed target d observations'

/-- A definition has to be computed for a target by a tick that begins at some moment. -/
def IsDue (history : List TickRecord) (target : String) (d : Definition) (now : Instant) : Prop :=
  d.scrapeInterval = none ∨
    (∀ r observations, ¬ LastComputed history target d r observations) ∨
    ∃ interval r observations, d.scrapeInterval = some interval ∧
      LastComputed history target d r observations ∧ r.started.after interval < now

theorem LastComputed.mem {history : List TickRecord} {target : String} {d : Definition}
    {r : TickRecord} {observations : List Observation}
    (h : LastComputed history target d r observations) : r ∈ history := by
  obtain ⟨later, earlier, rfl, -⟩ := h
  exact List.mem_append_right _ List.mem_cons_self

theorem LastComputed.computed {history : List TickRecord} {target : String} {d : Definition}
    {r : TickRecord} {observations : List Observation}
    (h : LastComputed history target d r observations) : r.Computed target d observations := by
  obtain ⟨later, earlier, -, hcomputed, -⟩ := h
  exact hcomputed

theorem not_lastComputed_nil {target : String} {d : Definition} {r : TickRecord}
    {observations : List Observation} : ¬ LastComputed [] target d r observations := by
  rintro ⟨later, earlier, hsplit, -⟩
  cases later <;> cases hsplit

theorem lastComputed_cons {r r' : TickRecord} {history : List TickRecord} {target : String}
    {d : Definition} {observations : List Observation} :
    LastComputed (r :: history) target d r' observations ↔
      r' = r ∧ r.Computed target d observations ∨
        (∀ observations', ¬ r.Computed target d observations') ∧
          LastComputed (r.known history) target d r' observations := by
  constructor
  · rintro ⟨later, earlier, hsplit, hcomputed, hlater⟩
    cases later with
    | nil =>
      obtain ⟨rfl, -⟩ := List.cons.inj hsplit
      exact .inl ⟨rfl, hcomputed⟩
    | cons first later =>
      obtain ⟨rfl, rfl⟩ := List.cons.inj hsplit
      obtain ⟨hreloaded, hnot⟩ := hlater r List.mem_cons_self
      rw [TickRecord.known, hreloaded]
      exact .inr ⟨hnot, later, earlier, rfl, hcomputed,
        fun r'' hmem ↦ hlater r'' (List.mem_cons_of_mem r hmem)⟩
  · rintro (⟨rfl, hcomputed⟩ | ⟨hnot, hlast⟩)
    · exact ⟨[], history, rfl, hcomputed, by simp⟩
    · rw [TickRecord.known] at hlast
      cases hreloaded : r.reloaded with
      | true =>
        -- A reload empties the cache, so what came before it does not count.
        rw [if_pos hreloaded] at hlast
        exact absurd hlast not_lastComputed_nil
      | false =>
        rw [if_neg (by rw [hreloaded]; decide)] at hlast
        obtain ⟨later, earlier, rfl, hcomputed, hlater⟩ := hlast
        refine ⟨r :: later, earlier, rfl, hcomputed, fun r'' hmem ↦ ?_⟩
        rcases List.mem_cons.1 hmem with rfl | hmem
        · exact ⟨hreloaded, hnot⟩
        · exact hlater r'' hmem

/-! ## The cache -/

/-- The cache holds what the history says, for the definitions of a plan. -/
structure Refines (history : List TickRecord) (plan : Plan) (cache : MetricCache) : Prop where
  sound : ∀ target d record, d ∈ plan.definitionsFor target → cache.cached? target d = some record →
    ∃ r, LastComputed history target d r record.observations ∧ r.started = record.computedAt ∧
      r.plan = plan
  complete : ∀ target d r observations, d ∈ plan.definitionsFor target →
    LastComputed history target d r observations →
      cache.cached? target d = some ⟨observations, r.started⟩

theorem refines_nil (plan : Plan) : Refines [] plan .empty :=
  ⟨fun _ _ _ _ hcached ↦ absurd hcached (by simp [MetricCache.cached?, MetricCache.empty]),
    fun _ _ _ _ _ hlast ↦ absurd hlast not_lastComputed_nil⟩

theorem Refines.isDue_iff {history : List TickRecord} {plan : Plan} {cache : MetricCache}
    (h : Refines history plan cache) {target : String} {d : Definition}
    (hd : d ∈ plan.definitionsFor target) (now : Instant) :
    cache.isDue target d now = true ↔ IsDue history target d now := by
  rw [MetricCache.isDue, IsDue]
  cases hinterval : d.scrapeInterval with
  | none => simp
  | some interval =>
    cases hcached : cache.cached? target d with
    | none =>
      refine ⟨fun _ ↦ .inr (.inl fun r observations hlast ↦ ?_), fun _ ↦ rfl⟩
      rw [h.complete target d r observations hd hlast] at hcached
      cases hcached
    | some record =>
      obtain ⟨r, hlast, hstarted, -⟩ := h.sound target d record hd hcached
      simp only [gt_iff_lt, decide_eq_true_eq, Instant.lt_since_iff]
      constructor
      · intro hlong
        exact .inr (.inr ⟨interval, r, record.observations, rfl, hlast, hstarted ▸ hlong⟩)
      · rintro (hnone | hnever | ⟨interval', r', observations, hsome, hlast', hlong⟩)
        · cases hnone
        · exact absurd hlast (hnever r _)
        · obtain rfl := Option.some.inj hsome
          rw [h.complete target d r' observations hd hlast', Option.some.injEq] at hcached
          rw [← hcached]
          dsimp only
          omega

/-- What is not due is in the cache. -/
theorem Refines.of_not_isDue {history : List TickRecord} {plan : Plan} {cache : MetricCache}
    (h : Refines history plan cache) {target : String} {d : Definition}
    (hd : d ∈ plan.definitionsFor target) {now : Instant}
    (hdue : cache.isDue target d now = false) :
    ∃ interval record r, d.scrapeInterval = some interval ∧
      cache.cached? target d = some record ∧
      LastComputed history target d r record.observations ∧ r.plan = plan ∧
      now ≤ r.started.after interval := by
  obtain ⟨interval, record, hinterval, hcached, hrecent⟩ := MetricCache.of_not_isDue hdue
  obtain ⟨r, hlast, hstarted, hplan⟩ := h.sound target d record hd hcached
  exact ⟨interval, record, r, hinterval, hcached, hlast, hplan, hstarted ▸ hrecent⟩

/-! ## One tick -/

namespace TickRecord

/-- The contributions of a tick come from its plan and from some cache. -/
structure ScrapedWith (r : TickRecord) (cache : MetricCache) : Prop where
  names : (r.contributions.map (·.target.name)).Nodup
  ids : ∀ target, ((r.plan.definitionsFor target).map Definition.id).Nodup
  each : ∀ c ∈ r.contributions, Tick.ScrapedFrom r.plan cache r.started c.target c

variable {r : TickRecord} {cache : MetricCache}

/-- A definition is known by its identity. -/
theorem ScrapedWith.eq_of_id_eq (h : r.ScrapedWith cache) {target : String} {d d' : Definition}
    (hd : d ∈ r.plan.definitionsFor target) (hd' : d' ∈ r.plan.definitionsFor target)
    (hid : d.id = d'.id) : d = d' :=
  List.inj_on_of_nodup_map (h.ids target) hd hd' hid

/-- What is to be kept of a tick is to be kept under different keys. -/
theorem ScrapedWith.nodup_keys (h : r.ScrapedWith cache) :
    ((r.contributions.flatMap (·.records r.started)).map (·.1)).Nodup := by
  rw [List.map_flatMap, List.nodup_flatMap]
  constructor
  · intro c hc
    refine List.Nodup.sublist (c.keys_records_sublist r.started) ?_
    have hqueried := (h.each c hc).nodup_map_id_queried (h.ids c.target.name)
    rw [Contribution.queried, List.map_map] at hqueried
    have hpairs := hqueried.map (Prod.mk_right_injective c.target.name)
    rw [List.map_map] at hpairs
    exact hpairs
  · have hnames := List.pairwise_map.1 h.names
    refine hnames.imp fun {c c'} hne key hkey hkey' ↦ hne ?_
    rw [← Contribution.fst_of_mem_keys_records hkey, Contribution.fst_of_mem_keys_records hkey']

/-- A computation that succeeded is to be kept. -/
theorem mem_records_of_computed {target : String} {d : Definition}
    {observations : List Observation} (h : r.Computed target d observations) :
    ((target, d.id), ⟨observations, r.started⟩) ∈
      r.contributions.flatMap (·.records r.started) := by
  obtain ⟨c, hc, rfl, k, hk, rfl, hsuccess⟩ := h
  exact List.mem_flatMap.2 ⟨c, hc, Contribution.mem_records.2
    ⟨k, hk, observations, hsuccess, rfl, rfl⟩⟩

/-- What is to be kept of a definition comes from a computation that succeeded. -/
theorem ScrapedWith.computed_of_mem_keys (h : r.ScrapedWith cache) {target : String}
    {d : Definition} (hd : d ∈ r.plan.definitionsFor target)
    (hkey : (target, d.id) ∈ (r.contributions.flatMap (·.records r.started)).map (·.1)) :
    ∃ observations, r.Computed target d observations := by
  obtain ⟨⟨key, record⟩, hmem, hkey⟩ := List.mem_map.1 hkey
  obtain ⟨c, hc, hmem⟩ := List.mem_flatMap.1 hmem
  obtain ⟨k, hk, observations, hsuccess, hkeys, -⟩ := Contribution.mem_records.1 hmem
  obtain ⟨rfl, hid⟩ := Prod.mk.inj (hkeys.trans hkey)
  have hqueried : k.definition ∈ c.queried := List.mem_map_of_mem hk
  have hsame := h.eq_of_id_eq ((h.each c hc).mem_definitionsFor hqueried) hd hid
  exact ⟨observations, c, hc, rfl, k, hk, hsame, hsuccess⟩

/-- Keys do not collide: those of one target by the identities, those of two by the names. -/
theorem ScrapedWith.cached?_of_computed (h : r.ScrapedWith cache) {cache' : MetricCache}
    (hcache : cache'.records =
      Keyed.putAll cache.records (r.contributions.flatMap (·.records r.started)))
    {target : String} {d : Definition} {observations : List Observation}
    (hcomputed : r.Computed target d observations) :
    cache'.cached? target d = some ⟨observations, r.started⟩ := by
  rw [MetricCache.cached?, hcache]
  exact Keyed.get?_putAll_of_mem h.nodup_keys (mem_records_of_computed hcomputed)

theorem ScrapedWith.cached?_of_not_computed (h : r.ScrapedWith cache) {cache' : MetricCache}
    (hcache : cache'.records =
      Keyed.putAll cache.records (r.contributions.flatMap (·.records r.started)))
    {target : String} {d : Definition} (hd : d ∈ r.plan.definitionsFor target)
    (hnot : ∀ observations, ¬ r.Computed target d observations) :
    cache'.cached? target d = cache.cached? target d := by
  rw [MetricCache.cached?, hcache]
  refine Keyed.get?_putAll_of_not_mem fun hkey ↦ ?_
  obtain ⟨observations, hcomputed⟩ := h.computed_of_mem_keys hd hkey
  exact hnot observations hcomputed

end TickRecord

/-- The cache goes on holding what the history says when a tick is accounted for. -/
theorem Refines.tick {history : List TickRecord} {r : TickRecord} {cache cache' : MetricCache}
    (h : Refines (r.known history) r.plan cache) (hscraped : r.ScrapedWith cache)
    (hcache : cache'.records =
      Keyed.putAll cache.records (r.contributions.flatMap (·.records r.started))) :
    Refines (r :: history) r.plan cache' := by
  have hnew : ∀ target d observations, r.Computed target d observations →
      cache'.cached? target d = some ⟨observations, r.started⟩ :=
    fun _ _ _ ↦ hscraped.cached?_of_computed hcache
  have hold : ∀ target d, d ∈ r.plan.definitionsFor target →
      (∀ observations, ¬ r.Computed target d observations) →
      cache'.cached? target d = cache.cached? target d :=
    fun _ _ ↦ hscraped.cached?_of_not_computed hcache
  constructor
  · intro target d record hd hcached
    by_cases hcomputed : ∃ observations, r.Computed target d observations
    · obtain ⟨observations, hcomputed⟩ := hcomputed
      rw [hnew target d observations hcomputed] at hcached
      obtain rfl := Option.some.inj hcached
      exact ⟨r, lastComputed_cons.2 (.inl ⟨rfl, hcomputed⟩), rfl, rfl⟩
    · have hnot := not_exists.1 hcomputed
      rw [hold target d hd hnot] at hcached
      obtain ⟨r', hlast, hstarted, hplan⟩ := h.sound target d record hd hcached
      exact ⟨r', lastComputed_cons.2 (.inr ⟨hnot, hlast⟩), hstarted, hplan⟩
  · intro target d r' observations hd hlast
    rcases lastComputed_cons.1 hlast with ⟨rfl, hcomputed⟩ | ⟨hnot, hlast⟩
    · exact hnew target d observations hcomputed
    · rw [hold target d hd hnot]
      exact h.complete target d r' observations hd hlast

/-- What a tick serves for a definition that it does not compute: what the last tick that computed
it got. That tick had the same plan, and began no longer ago than the interval of the definition. -/
def Serves (history : List TickRecord) (r : TickRecord) (target : String) (d : Definition)
    (observations : List Observation) : Prop :=
  ∃ r' interval, LastComputed history target d r' observations ∧ r'.plan = r.plan ∧
    d.scrapeInterval = some interval ∧ r'.started ≤ r.started ∧
    r.started ≤ r'.started.after interval

/-- What a tick asks of its targets, and what it serves, follows from the ticks before it. -/
structure TickRecord.Follows (history : List TickRecord) (r : TickRecord) : Prop where
  asked : ∀ c ∈ r.contributions, c.up = true → ∀ d, d ∈ c.queried ↔
    d ∈ r.plan.definitionsFor c.target.name ∧
      IsDue (r.known history) c.target.name d r.started
  once : ∀ c ∈ r.contributions, c.queried.Nodup
  served : ∀ c ∈ r.contributions, c.up = true →
    List.Forall₂ (Serves (r.known history) r c.target.name)
      ((r.plan.definitionsFor c.target.name).filter fun d ↦ d ∉ c.queried) c.cached
  silent : ∀ c ∈ r.contributions, c.up = false → c.queried = [] ∧ c.cached = []

theorem forall₂_filterMap {α β : Type} {p : α → β → Prop} {f : α → Option β} {l : List α}
    (h : ∀ a ∈ l, ∃ b, f a = some b ∧ p a b) : List.Forall₂ p l (l.filterMap f) := by
  induction l with
  | nil => exact .nil
  | cons a l ih =>
    obtain ⟨b, hb, hp⟩ := h a List.mem_cons_self
    rw [List.filterMap_cons_some hb]
    exact .cons hp (ih fun a' hmem ↦ h a' (List.mem_cons_of_mem a hmem))

theorem Refines.follows {history : List TickRecord} {r : TickRecord} {cache : MetricCache}
    (h : Refines (r.known history) r.plan cache) (hscraped : r.ScrapedWith cache)
    (hpast : ∀ r' ∈ history, r'.started ≤ r.started) : r.Follows history := by
  have hasked : ∀ c ∈ r.contributions, c.up = true → ∀ d, d ∈ c.queried ↔
      d ∈ r.plan.definitionsFor c.target.name ∧ cache.isDue c.target.name d r.started = true :=
    fun c hc hup d ↦ (hscraped.each c hc).mem_queried_iff hup
  have hknown : ∀ target d r' observations,
      LastComputed (r.known history) target d r' observations → r'.started ≤ r.started :=
    fun _ _ r' _ hlast ↦ hpast r' (TickRecord.mem_of_mem_known hlast.mem)
  refine ⟨fun c hc hup d ↦ ?_, fun c hc ↦ ?_, fun c hc hup ↦ ?_, fun c hc hdown ↦ ?_⟩
  · rw [hasked c hc hup d]
    exact and_congr_right fun hd ↦ h.isDue_iff hd r.started
  · exact List.Nodup.of_map Definition.id
      ((hscraped.each c hc).nodup_map_id_queried (hscraped.ids c.target.name))
  · -- What is not asked for is what is not due, and all of that is in the cache.
    have hfilter : ((r.plan.definitionsFor c.target.name).filter fun d ↦ d ∉ c.queried) =
        (r.plan.definitionsFor c.target.name).filter fun d ↦
          !cache.isDue c.target.name d r.started := by
      refine List.filter_congr fun d hd ↦ ?_
      simp only [(hasked c hc hup d).trans (and_iff_right hd)]
      cases cache.isDue c.target.name d r.started <;> rfl
    rw [hfilter, (hscraped.each c hc).cached hup, Tick.servedFromCache]
    refine forall₂_filterMap fun d hmem ↦ ?_
    obtain ⟨hd, hdue⟩ := List.mem_filter.1 hmem
    obtain ⟨interval, record, r', hinterval, hcached, hlast, hplan, hrecent⟩ :=
      h.of_not_isDue hd (by simpa using hdue)
    exact ⟨record.observations, by rw [hcached]; rfl, r', interval, hlast, hplan, hinterval,
      hknown _ _ _ _ hlast, hrecent⟩
  · obtain ⟨hfresh, hcached⟩ := (hscraped.each c hc).silent hdown
    exact ⟨by rw [Contribution.queried, hfresh]; rfl, hcached⟩

/-! ## Runs -/

namespace Scraper

variable {σ : Type} (server : Clocked σ) (limits : ConnectionLimits) (namespaceName : String)

/-- What happens in a tick. -/
def record (fs : Files) (t : TickState σ) : TickRecord :=
  let begun := (t.scraper.reload namespaceName fs (t.connections.map (·.target)) t.meters).1
  { started := t.now
    reloaded := (t.scraper.store.reload fs t.scraper.reloadRequested).2.isSome
    plan := begun.plan
    contributions :=
      (begun.scrapeAll server limits namespaceName t.now t.connections).map (·.result) }

/-- The states that the exporter comes to with some targets, and the ticks that it has run. -/
inductive Ran (targets : List Target) : List TickRecord → TickState σ → Prop
  | start (fs : Files) (sources : List String) {connections : List (Connection σ)}
      (htargets : connections.map (·.target) = targets) (meters : Meters) (now : Instant) :
      Ran targets [] ⟨.start fs sources targets, connections, meters, now⟩
  /-- Time passes, and anything happens to the connections; a reload may be asked for. -/
  | between {history : List TickRecord} {t t' : TickState σ} (hran : Ran targets history t)
      (hscraper : t'.scraper = t.scraper ∨ t'.scraper = t.scraper.requestReload)
      (htargets : t'.connections.map (·.target) = t.connections.map (·.target))
      (hnow : t.now ≤ t'.now) : Ran targets history t'
  /-- A tick, whatever is in the files by then. -/
  | tick {history : List TickRecord} {t : TickState σ} (hran : Ran targets history t)
      (fs : Files) :
      Ran targets (record server limits namespaceName fs t :: history)
        (tick server limits namespaceName fs t)

theorem reload_of_none {s : Scraper} {fs : Files}
    (h : (s.store.reload fs s.reloadRequested).2 = none) (targets : List Target)
    (meters : Meters) :
    (s.reload namespaceName fs targets meters).1.plan = s.plan ∧
      (s.reload namespaceName fs targets meters).1.cache = s.cache := by
  simp [reload, h]

theorem reload_of_some {s : Scraper} {fs : Files} {set : DefinitionSet}
    (h : (s.store.reload fs s.reloadRequested).2 = some set) (targets : List Target)
    (meters : Meters) :
    (s.reload namespaceName fs targets meters).1.plan = .build set targets ∧
      (s.reload namespaceName fs targets meters).1.cache = .empty := by
  simp [reload, h]

/-- Every target contributes once, in order. -/
theorem targets_scrapeAll (started : Instant) (s : Scraper) (connections : List (Connection σ)) :
    ((s.scrapeAll server limits namespaceName started connections).map (·.result)).map
      (·.target) = connections.map (·.target) := by
  rw [scrapeAll, List.map_map, List.map_map]
  exact List.map_congr_left fun c _ ↦
    (Tick.scrapedFrom_scrapeTarget server limits namespaceName s.plan s.cache started c).belongs

/-- Each contribution to a tick comes from one of the connections. -/
theorem mem_contributions_record {fs : Files} {t : TickState σ} {c : Contribution} :
    c ∈ (record server limits namespaceName fs t).contributions ↔
      ∃ connection ∈ t.connections,
        (Tick.scrapeTarget server limits namespaceName
          (record server limits namespaceName fs t).plan
          (t.scraper.reload namespaceName fs (t.connections.map (·.target)) t.meters).1.cache t.now
          connection).result = c := by
  rw [record]
  simp only [scrapeAll, List.map_map, List.mem_map, Function.comp_apply]

/-- A tick does not touch the targets. -/
theorem targets_tick (fs : Files) (t : TickState σ) :
    (tick server limits namespaceName fs t).connections.map (·.target) =
      t.connections.map (·.target) := by
  rw [tick]
  simp only [scrapeAll, List.map_map]
  exact List.map_congr_left fun c _ ↦
    Tick.target_scrapeTarget server limits namespaceName _ _ t.now c

theorem le_now_tick (fs : Files) (t : TickState σ) :
    t.now ≤ (tick server limits namespaceName fs t).now :=
  Tick.le_foldl_max (.inl (Nat.le_refl t.now))

/-- What holds of a state that the exporter comes to, and of the ticks that it has run. -/
structure Faithful (targets : List Target) (history : List TickRecord) (t : TickState σ) :
    Prop where
  attached : t.connections.map (·.target) = targets
  planned : ∃ set : DefinitionSet, t.scraper.plan = .build set targets ∧ set.HasUniqueIds
  refines : Refines history t.scraper.plan t.scraper.cache
  past : ∀ r ∈ history, r.started ≤ t.now

/-- One more thing that happened, and what holds after it. -/
theorem Faithful.cons {targets : List Target} {history : List TickRecord} {r : TickRecord}
    {t t' : TickState σ} (h : Faithful targets history t) (hstarted : r.started ≤ t'.now)
    (hnow : t.now ≤ t'.now) (hattached : t'.connections.map (·.target) = targets)
    (hplanned : ∃ set : DefinitionSet, t'.scraper.plan = .build set targets ∧ set.HasUniqueIds)
    (hrefines : Refines (r :: history) t'.scraper.plan t'.scraper.cache) :
    Faithful targets (r :: history) t' := by
  refine ⟨hattached, hplanned, hrefines, fun r' hr' ↦ ?_⟩
  rcases List.mem_cons.1 hr' with rfl | hr'
  · exact hstarted
  · exact Nat.le_trans (h.past r' hr') hnow

theorem faithful_start {targets : List Target} (fs : Files) (sources : List String)
    {connections : List (Connection σ)} (htargets : connections.map (·.target) = targets)
    (meters : Meters) (now : Instant) :
    Faithful targets [] ⟨.start fs sources targets, connections, meters, now⟩ :=
  ⟨htargets, ⟨_, rfl, DefinitionStore.hasUniqueIds_load fs _⟩, refines_nil _, by simp⟩

theorem Faithful.between {targets : List Target} {history : List TickRecord} {t t' : TickState σ}
    (h : Faithful targets history t)
    (hscraper : t'.scraper = t.scraper ∨ t'.scraper = t.scraper.requestReload)
    (htargets : t'.connections.map (·.target) = t.connections.map (·.target))
    (hnow : t.now ≤ t'.now) : Faithful targets history t' := by
  have hsame : t'.scraper.plan = t.scraper.plan ∧ t'.scraper.cache = t.scraper.cache := by
    rcases hscraper with hscraper | hscraper
    · rw [hscraper]
      exact ⟨rfl, rfl⟩
    · rw [hscraper]
      exact ⟨rfl, rfl⟩
  refine ⟨htargets.trans h.attached, ?_, ?_, fun r hr ↦ Nat.le_trans (h.past r hr) hnow⟩
  · rw [hsame.1]
    exact h.planned
  · rw [hsame.1, hsame.2]
    exact h.refines

/-- The plan and the cache that a tick works with. -/
theorem Faithful.begun {targets : List Target} {history : List TickRecord} {t : TickState σ}
    (h : Faithful targets history t) (fs : Files) :
    (∃ set : DefinitionSet, (record server limits namespaceName fs t).plan = .build set targets ∧
      set.HasUniqueIds) ∧
    Refines ((record server limits namespaceName fs t).known history)
      (record server limits namespaceName fs t).plan
      (t.scraper.reload namespaceName fs (t.connections.map (·.target)) t.meters).1.cache := by
  rw [TickRecord.known, record]
  dsimp only
  -- A new plan and an empty cache come together, and the tick then knows nothing of those before.
  cases hset : (t.scraper.store.reload fs t.scraper.reloadRequested).2 with
  | none =>
    obtain ⟨hplan, hcache⟩ :=
      reload_of_none namespaceName hset (t.connections.map (·.target)) t.meters
    rw [hplan, hcache]
    exact ⟨h.planned, h.refines⟩
  | some set =>
    obtain ⟨hplan, hcache⟩ :=
      reload_of_some namespaceName hset (t.connections.map (·.target)) t.meters
    rw [hplan, hcache, h.attached]
    exact ⟨⟨set, rfl, DefinitionStore.hasUniqueIds_reload fs hset⟩, refines_nil _⟩

/-- The contributions to a tick come from the plan and the cache that it works with. -/
theorem Faithful.scrapedWith {targets : List Target} {history : List TickRecord} {t : TickState σ}
    (h : Faithful targets history t) (hnames : (targets.map (·.name)).Nodup) (fs : Files) :
    (record server limits namespaceName fs t).ScrapedWith
      (t.scraper.reload namespaceName fs (t.connections.map (·.target)) t.meters).1.cache := by
  obtain ⟨⟨set, hplan, hids⟩, -⟩ := h.begun server limits namespaceName fs
  refine ⟨?_, fun target ↦ ?_, fun c hc ↦ ?_⟩
  · have htargets := targets_scrapeAll server limits namespaceName t.now
      (t.scraper.reload namespaceName fs (t.connections.map (·.target)) t.meters).1 t.connections
    have hmap := congrArg (List.map Target.name) (htargets.trans h.attached)
    -- One contribution for each target, so their names differ as those of the targets do.
    rw [← hmap, List.map_map] at hnames
    exact hnames
  · rw [hplan]
    exact hids.sublist ((Plan.definitionsFor_build_sublist set targets target).map Definition.id)
  · obtain ⟨connection, -, rfl⟩ := (mem_contributions_record server limits namespaceName).1 hc
    have hscraped := Tick.scrapedFrom_scrapeTarget server limits namespaceName
      (record server limits namespaceName fs t).plan
      (t.scraper.reload namespaceName fs (t.connections.map (·.target)) t.meters).1.cache t.now
      connection
    rw [← hscraped.belongs] at hscraped
    exact hscraped

/-- A tick, and what holds after it. -/
theorem Faithful.tick {targets : List Target} {history : List TickRecord} {t : TickState σ}
    (h : Faithful targets history t) (hnames : (targets.map (·.name)).Nodup) (fs : Files) :
    Faithful targets (record server limits namespaceName fs t :: history)
      (Scraper.tick server limits namespaceName fs t) := by
  obtain ⟨hplanned, hrefines⟩ := h.begun server limits namespaceName fs
  have hnow := le_now_tick server limits namespaceName fs t
  refine h.cons hnow hnow ((targets_tick server limits namespaceName fs t).trans h.attached)
    hplanned (hrefines.tick (h.scrapedWith server limits namespaceName hnames fs) ?_)
  exact Tick.records_aggregate namespaceName t.now _ _

variable {server limits namespaceName}

theorem Ran.faithful {targets : List Target} (hnames : (targets.map (·.name)).Nodup)
    {history : List TickRecord} {t : TickState σ}
    (h : Ran server limits namespaceName targets history t) : Faithful targets history t := by
  induction h with
  | start fs sources htargets meters now => exact faithful_start fs sources htargets meters now
  | between _ hscraper htargets hnow ih => exact ih.between hscraper htargets hnow
  | tick _ fs ih => exact ih.tick server limits namespaceName hnames fs

/-- What a tick asks of its targets, what it serves and what it publishes follows from the ticks
before it. -/
theorem Ran.tick_follows {targets : List Target} (hnames : (targets.map (·.name)).Nodup)
    {history : List TickRecord} {t : TickState σ}
    (h : Ran server limits namespaceName targets history t) (fs : Files) :
    (record server limits namespaceName fs t).Follows history ∧
      (Scraper.tick server limits namespaceName fs t).scraper.snapshot.observations =
        (record server limits namespaceName fs t).contributions.flatMap
          (·.observations namespaceName) := by
  have hfaithful := h.faithful hnames
  obtain ⟨-, hrefines⟩ := hfaithful.begun server limits namespaceName fs
  refine ⟨hrefines.follows (hfaithful.scrapedWith server limits namespaceName hnames fs)
    hfaithful.past, ?_⟩
  exact (Tick.observations_aggregate namespaceName t.now _ _).trans (List.nil_append _)

/-! ### A run

One target, and one definition that is computed every five minutes. -/

/-- A file with one definition that has an interval. -/
def slowFile : List UInt8 :=
  Utf8.encode ("[[metric]]\ncontext = \"c\"\nmetricsdesc.v = \"\"\nrequest = \"q\"\n" ++
    "scrapeinterval = \"5m\"\n")

/-- The files around the run. -/
def slowFiles : Files := Files.empty.write "a.toml" slowFile

/-- A database that answers every query with one value. -/
def countingDatabase : Rehearsal := { responses := [⟨"", .atOnce (.ok [⟨[("v", some "1")]⟩])⟩] }

/-- The target of that database. -/
def slowTarget : Target := ⟨"db", { url := "" }, [("database", "db")]⟩

/-- The exporter before its first tick. -/
def beforeFirst : TickState Rehearsal :=
  ⟨.start slowFiles ["a.toml"] [slowTarget],
    [.start Rehearsal.server.steady .zero slowTarget countingDatabase], {}, .zero⟩

/-- The exporter after its first tick. -/
def afterFirst : TickState Rehearsal :=
  tick Rehearsal.server.steady {} "dbmon" slowFiles beforeFirst

/-- The exporter five minutes later. -/
def beforeSecond : TickState Rehearsal :=
  { afterFirst with now := afterFirst.now.after (.ofSeconds 300) }

/-- The second tick computes nothing, and serves what the first one got. -/
theorem tick_follows_second :
    ([slowTarget].map (·.name)).Nodup ∧
      Ran Rehearsal.server.steady {} "dbmon" [slowTarget]
        [record Rehearsal.server.steady {} "dbmon" slowFiles beforeFirst] beforeSecond ∧
      (record Rehearsal.server.steady {} "dbmon" slowFiles beforeSecond).Follows
        [record Rehearsal.server.steady {} "dbmon" slowFiles beforeFirst] ∧
      (record Rehearsal.server.steady {} "dbmon" slowFiles beforeSecond).contributions.map
          (fun c ↦ (c.up, c.queried.map (·.id), c.cached.map (·.map (·.name)))) =
        [(true, [], [["dbmon_c_v"]])] := by
  have hnames : ([slowTarget].map (·.name)).Nodup := by decide
  have htargets : beforeFirst.connections.map (·.target) = [slowTarget] := rfl
  have hstart : Ran Rehearsal.server.steady {} "dbmon" [slowTarget] [] beforeFirst :=
    .start slowFiles ["a.toml"] htargets {} .zero
  have hfirst : Ran Rehearsal.server.steady {} "dbmon" [slowTarget]
      [record Rehearsal.server.steady {} "dbmon" slowFiles beforeFirst] afterFirst :=
    .tick hstart slowFiles
  have hran : Ran Rehearsal.server.steady {} "dbmon" [slowTarget]
      [record Rehearsal.server.steady {} "dbmon" slowFiles beforeFirst] beforeSecond :=
    .between hfirst (.inl rfl) rfl (Nat.le_add_right _ _)
  exact ⟨hnames, hran, (hran.tick_follows hnames slowFiles).1, by decide +kernel⟩

end Scraper

end Telemetry
