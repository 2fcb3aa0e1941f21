import Mathlib.Data.List.Nodup
import Telemetry.Proofs.Target.Connection
import Telemetry.Proofs.Target.Journal
import Telemetry.Tick

/-!
# What a target contributes to a tick

A target that passes its check is asked for its due definitions, each once, and serves what the
cache holds for the others (`ScrapedFrom`). Any other target contributes nothing.
-/

namespace Telemetry

/-- The definitions of a target are some of those of the set, in their order. -/
theorem Plan.definitionsFor_build_sublist (set : DefinitionSet) (targets : List Target)
    (target : String) :
    ((Plan.build set targets).definitionsFor target).Sublist set.definitions := by
  rw [definitionsFor, build, Keyed.get?, List.find?_map]
  cases targets.find? _ with
  | none => exact List.nil_sublist _
  | some t => exact List.filter_sublist

/-- What is not due has an interval and a record, which began no longer ago than that. -/
theorem MetricCache.of_not_isDue {cache : MetricCache} {target : String} {d : Definition}
    {now : Instant} (h : cache.isDue target d now = false) :
    ∃ interval record, d.scrapeInterval = some interval ∧
      cache.cached? target d = some record ∧ now ≤ record.computedAt.after interval := by
  rw [isDue] at h
  cases hinterval : d.scrapeInterval with
  | none =>
    rw [hinterval] at h
    cases h
  | some interval =>
    cases hcached : cache.cached? target d with
    | none =>
      simp only [hinterval, hcached] at h
      cases h
    | some record =>
      simp only [hinterval, hcached, gt_iff_lt, decide_eq_false_iff_not, Instant.lt_since_iff] at h
      exact ⟨interval, record, rfl, rfl, Nat.le_of_not_lt h⟩

/-- The definitions that were computed for a target, in the order of completion. -/
def Contribution.queried (c : Contribution) : List Definition := c.fresh.map (·.definition)

namespace Tick

/-- No moment is after the latest of all. -/
theorem le_foldl_max {moments : List Instant} {started moment : Instant}
    (h : moment ≤ started ∨ moment ∈ moments) : moment ≤ moments.foldl max started := by
  induction moments generalizing started with
  | nil => exact h.resolve_right List.not_mem_nil
  | cons first moments ih =>
    rw [List.mem_cons] at h
    refine ih ?_
    rcases h with hle | rfl | hmem
    · exact .inl (Nat.le_trans hle (Nat.le_max_left _ _))
    · exact .inl (Nat.le_max_right _ _)
    · exact .inr hmem

variable {σ : Type} (server : Clocked σ)

/-! ## Sending queries -/

/-- Each definition gets its own reply. -/
theorem map_fst_dispatch (session : Session) (now : Instant) (definitions : List Definition)
    (database : σ) :
    (dispatch server session now definitions database).1.map (·.1) = definitions := by
  induction definitions generalizing database with
  | nil => rfl
  | cons d definitions ih =>
    rw [dispatch]
    simp only [List.map_cons]
    rw [ih]

/-- Each definition has its query sent, once and in order. -/
theorem contacts_dispatch (generation : Nat) (now : Instant) (definitions : List Definition)
    (s : Journaled σ) :
    (dispatch server.journaled (.live generation) now definitions s).2.contacts =
      (definitions.map fun d ↦ .fetched now generation d.request).reverse ++ s.contacts := by
  induction definitions generalizing s with
  | nil => rfl
  | cons d definitions ih =>
    rw [dispatch]
    simp only [ih]
    simp [Session.fetch, Clocked.journaled]

theorem perm_inCompletionOrder (default : Duration)
    (replies : List (Definition × Reply (List Row))) :
    (inCompletionOrder default replies).Perm replies := List.mergeSort_perm replies _

/-! ## One target -/

/-- What a target contributes when it is asked with some plan and cache. -/
structure ScrapedFrom (plan : Plan) (cache : MetricCache) (started : Instant) (target : Target)
    (c : Contribution) : Prop where
  belongs : c.target = target
  queried : c.up = true → c.queried.Perm (dueDefinitions plan cache target.name started)
  cached : c.up = true → c.cached = servedFromCache plan cache target.name started
  silent : c.up = false → c.fresh = [] ∧ c.cached = []

namespace ScrapedFrom

variable {plan : Plan} {cache : MetricCache} {started : Instant} {target : Target}
  {c : Contribution} {d : Definition}

theorem mem_queried_iff (h : ScrapedFrom plan cache started target c) (hup : c.up = true) :
    d ∈ c.queried ↔
      d ∈ plan.definitionsFor target.name ∧ cache.isDue target.name d started = true := by
  rw [(h.queried hup).mem_iff, dueDefinitions, List.mem_filter]

theorem mem_definitionsFor (h : ScrapedFrom plan cache started target c) (hd : d ∈ c.queried) :
    d ∈ plan.definitionsFor target.name := by
  cases hup : c.up with
  | true => exact ((h.mem_queried_iff hup).1 hd).1
  | false =>
    rw [Contribution.queried, (h.silent hup).1] at hd
    cases hd

theorem nodup_map_id_queried (h : ScrapedFrom plan cache started target c)
    (hids : ((plan.definitionsFor target.name).map Definition.id).Nodup) :
    (c.queried.map Definition.id).Nodup := by
  cases hup : c.up with
  | true =>
    rw [((h.queried hup).map Definition.id).nodup_iff]
    exact hids.sublist (List.filter_sublist.map Definition.id)
  | false =>
    rw [Contribution.queried, (h.silent hup).1]
    exact List.nodup_nil

end ScrapedFrom

theorem scrapedFrom_absent (plan : Plan) (cache : MetricCache) (started : Instant)
    (target : Target) : ScrapedFrom plan cache started target (absent target) :=
  ⟨rfl, by simp [absent], by simp [absent], fun _ ↦ ⟨rfl, rfl⟩⟩

theorem scrapedFrom_scrapeSession (namespaceName : String) (plan : Plan) (cache : MetricCache)
    (started : Instant) (session : Session) (now : Instant) (c : Connection σ) :
    ScrapedFrom plan cache started c.target
      (scrapeSession server namespaceName plan cache started session now c).result := by
  refine ⟨rfl, fun _ ↦ ?_, fun _ ↦ rfl, by simp [scrapeSession]⟩
  have hperm := (perm_inCompletionOrder c.target.settings.queryTimeout (dispatch server session now
    (dueDefinitions plan cache c.target.name started) c.database).1).map (·.1)
  rw [map_fst_dispatch] at hperm
  rw [Contribution.queried, scrapeSession, List.map_map]
  exact hperm

section ScrapeTarget

variable (limits : ConnectionLimits) (namespaceName : String) (plan : Plan) (cache : MetricCache)
  (started : Instant)

/-- What one target can do in a tick: it contributes nothing after its check, or it passed the
check, no backoff is under way, and its session is asked. -/
theorem scrapeTarget_cases (c : Connection σ) :
    scrapeTarget server limits namespaceName plan cache started c =
        ⟨absent c.target, (c.check server limits started).connection,
          (c.check server limits started).now⟩ ∨
      ((c.check server limits started).result = .healthy ∧
        (c.check server limits started).connection.health.isValidAt
          (c.check server limits started).now = true) ∧
        scrapeTarget server limits namespaceName plan cache started c =
          scrapeSession server namespaceName plan cache started
            (c.check server limits started).connection.session
            (c.check server limits started).now (c.check server limits started).connection := by
  rw [scrapeTarget]
  cases (c.check server limits started).result with
  | down => exact .inl rfl
  | invalid => exact .inl rfl
  | healthy =>
    dsimp only
    rw [Connection.acquire]
    -- The health is looked at once more before the session is handed out.
    by_cases hvalid : (c.check server limits started).connection.health.isValidAt
        (c.check server limits started).now = true
    · rw [if_pos hvalid]
      exact .inr ⟨⟨rfl, hvalid⟩, rfl⟩
    · rw [if_neg hvalid]
      exact .inl rfl

/-- What one target contributes to a tick. -/
theorem scrapedFrom_scrapeTarget (c : Connection σ) :
    ScrapedFrom plan cache started c.target
      (scrapeTarget server limits namespaceName plan cache started c).result := by
  rcases scrapeTarget_cases server limits namespaceName plan cache started c with h | ⟨-, h⟩
  · rw [h]
    exact scrapedFrom_absent plan cache started c.target
  · rw [h, ← c.target_check server limits started]
    exact scrapedFrom_scrapeSession server namespaceName plan cache started _ _ _

/-- A tick does not touch the targets. -/
theorem target_scrapeTarget (c : Connection σ) :
    (scrapeTarget server limits namespaceName plan cache started c).connection.target =
      c.target := by
  rcases scrapeTarget_cases server limits namespaceName plan cache started c with h | ⟨-, h⟩
  · rw [h]
    exact c.target_check server limits started
  · rw [h]
    exact c.target_check server limits started

end ScrapeTarget

end Tick

end Telemetry
