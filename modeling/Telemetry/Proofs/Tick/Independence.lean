import Telemetry.Proofs.Tick.Answers

/-!
# Targets and definitions are on their own

Two executions of a tick may differ in what the query of one definition brings for one target, or in
all that one target does (`Disturbance`). Nobody else notices, neither in this tick nor when it is
decided what the next one has to compute (`Ran.tick_confines`).

The two executions share the plan, the cache and the snapshot. They stay apart because each target
is asked through its own connection (`Tick.unmoved_of_separates`), and because what is kept for a
definition is kept under a key of its own (`TickRecord.ScrapedWith.cached?_congr`): a record that one
of the executions overwrites, and the other does not, is that of the definition they differ in.
-/

namespace Telemetry

/-- What two executions of a tick may differ in. -/
inductive Disturbance where
  /-- All that one target does: the sessions that it gives, and what it answers through them. -/
  | session (name : String)
  /-- The reply to the query of one definition for one target. -/
  | query (name : String) (d : Definition)

namespace Disturbance

/-- The disturbance leaves a target as a whole alone. -/
def SparesTarget (name : String) : Disturbance → Prop
  | .session disturbed => name ≠ disturbed
  | .query .. => True

/-- The disturbance leaves a definition of a target alone. -/
def Spares (name : String) (d : Definition) : Disturbance → Prop
  | .session disturbed => name ≠ disturbed
  | .query target disturbed => name = target → d ≠ disturbed

theorem Spares.sparesTarget {disturbance : Disturbance} {name : String} {d : Definition}
    (h : disturbance.Spares name d) : disturbance.SparesTarget name := by
  cases disturbance with
  | session disturbed => exact h
  | query disturbed d' => exact trivial

end Disturbance

namespace Tick

variable {σ : Type} (server : Clocked σ) (limits : ConnectionLimits) (plan : Plan)
  (cache : MetricCache) (started : Instant)

/-- Two states of a target that a tick meets alike, but for the reply to the query of one
definition. -/
structure AlikeBut (d : Definition) (c c' : Connection σ) : Prop where
  target : c'.target = c.target
  result : (c'.check server limits started).result = (c.check server limits started).result
  now : (c'.check server limits started).now = (c.check server limits started).now
  health : (c'.check server limits started).connection.health =
    (c.check server limits started).connection.health
  replies : ∀ d', d' ≠ d → Keyed.get? (replies server limits plan cache started c') d' =
    Keyed.get? (replies server limits plan cache started c) d'

/-- Two states of a target that a disturbance sets apart. -/
def Separates (c c' : Connection σ) : Disturbance → Prop
  | .session name => c'.target = c.target ∧ (c.target.name ≠ name → c' = c)
  | .query name d => (c.target.name ≠ name → c' = c) ∧
      (c.target.name = name → AlikeBut server limits plan cache started d c c')

variable {server limits plan cache started} in
/-- Only what is due gets a reply. -/
theorem get?_replies_congr {d : Definition} {c c' : Connection σ} (htarget : c'.target = c.target)
    (h : ∀ d' ∈ dueDefinitions plan cache c.target.name started, d' ≠ d →
      Keyed.get? (replies server limits plan cache started c') d' =
        Keyed.get? (replies server limits plan cache started c) d') (d' : Definition)
    (hne : d' ≠ d) : Keyed.get? (replies server limits plan cache started c') d' =
      Keyed.get? (replies server limits plan cache started c) d' := by
  by_cases hdue : d' ∈ dueDefinitions plan cache c.target.name started
  · exact h d' hdue hne
  · rw [Keyed.get?_eq_none_iff.2 (by rwa [replies, map_fst_dispatch, htarget]),
      Keyed.get?_eq_none_iff.2 (by rwa [replies, map_fst_dispatch])]

/-- What a disturbance leaves as it is in what a tick does with one target. -/
structure Unmoved (disturbance : Disturbance) (s s' : Settled σ Contribution) : Prop where
  target : s'.result.target = s.result.target
  connection : s.connection.target = s.result.target ∧ s'.connection.target = s.result.target
  up : disturbance.SparesTarget s.result.target.name → s'.result.up = s.result.up
  health : disturbance.SparesTarget s.result.target.name →
    s'.connection.health = s.connection.health
  answer : ∀ d, disturbance.Spares s.result.target.name d →
    s'.result.answer? d = s.result.answer? d

variable {server limits plan cache started} {c c' : Connection σ} {namespaceName : String}

theorem target_of_separates {disturbance : Disturbance}
    (h : Separates server limits plan cache started c c' disturbance) : c'.target = c.target := by
  cases disturbance with
  | session name => exact h.1
  | query name d =>
    by_cases hname : c.target.name = name
    · exact (h.2 hname).target
    · rw [h.1 hname]

/-- A target that does the same. -/
theorem unmoved_of_alike (disturbance : Disturbance) (htarget : c'.target = c.target)
    (hspared : disturbance.SparesTarget c.target.name →
      (scrapeTarget server limits namespaceName plan cache started c').result.up =
          (scrapeTarget server limits namespaceName plan cache started c).result.up ∧
        (c'.check server limits started).connection.health =
          (c.check server limits started).connection.health ∧
        ∀ d, disturbance.Spares c.target.name d →
          (scrapeTarget server limits namespaceName plan cache started c').result.answer? d =
            (scrapeTarget server limits namespaceName plan cache started c).result.answer? d) :
    Unmoved disturbance (scrapeTarget server limits namespaceName plan cache started c)
      (scrapeTarget server limits namespaceName plan cache started c') := by
  have hbelongs :=
    (scrapedFrom_scrapeTarget server limits namespaceName plan cache started c).belongs
  have hbelongs' :=
    (scrapedFrom_scrapeTarget server limits namespaceName plan cache started c').belongs
  have hconnection := target_scrapeTarget server limits namespaceName plan cache started c
  have hconnection' := target_scrapeTarget server limits namespaceName plan cache started c'
  have hname := congrArg Target.name hbelongs
  constructor
  · rw [hbelongs, hbelongs', htarget]
  · rw [hbelongs, hconnection, hconnection', htarget]
    exact ⟨rfl, rfl⟩
  · rw [hname]
    exact fun hspares ↦ (hspared hspares).1
  · rw [hname, health_scrapeTarget, health_scrapeTarget]
    exact fun hspares ↦ (hspared hspares).2.1
  · rw [hname]
    exact fun d hspares ↦ (hspared hspares.sparesTarget).2.2 d hspares

/-- Only the one definition is affected by the reply to its query. -/
theorem AlikeBut.unmoved {d : Definition} (h : AlikeBut server limits plan cache started d c c')
    (hids : ((plan.definitionsFor c.target.name).map Definition.id).Nodup) :
    Unmoved (.query c.target.name d)
      (scrapeTarget server limits namespaceName plan cache started c)
      (scrapeTarget server limits namespaceName plan cache started c') := by
  have hup : (scrapeTarget server limits namespaceName plan cache started c').result.up =
      (scrapeTarget server limits namespaceName plan cache started c).result.up := by
    rw [Bool.eq_iff_iff, up_scrapeTarget_iff_isValidAt, up_scrapeTarget_iff_isValidAt, h.result,
      h.health, h.now]
  have hscraped := scrapedFrom_scrapeTarget server limits namespaceName plan cache started c
  have hscraped' := scrapedFrom_scrapeTarget server limits namespaceName plan cache started c'
  refine unmoved_of_alike _ h.target fun _ ↦ ⟨hup, h.health, fun d' hspares ↦ ?_⟩
  cases hdown : (scrapeTarget server limits namespaceName plan cache started c).result.up with
  | false => rw [hscraped.answer?_of_down hdown, hscraped'.answer?_of_down (hup.trans hdown)]
  | true =>
    rw [answer?_scrapeTarget server limits plan cache started c hids namespaceName hdown,
      answer?_scrapeTarget server limits plan cache started c' (by rwa [h.target])
        namespaceName (hup.trans hdown), h.replies d' (hspares rfl), h.target]

/-- What a tick does with a target depends on its own connection alone. -/
theorem unmoved_of_separates {disturbance : Disturbance}
    (h : Separates server limits plan cache started c c' disturbance)
    (hids : ((plan.definitionsFor c.target.name).map Definition.id).Nodup) :
    Unmoved disturbance (scrapeTarget server limits namespaceName plan cache started c)
      (scrapeTarget server limits namespaceName plan cache started c') := by
  have hsame : c' = c → Unmoved disturbance
      (scrapeTarget server limits namespaceName plan cache started c)
      (scrapeTarget server limits namespaceName plan cache started c') := by
    rintro rfl
    exact unmoved_of_alike _ rfl fun _ ↦ ⟨rfl, rfl, fun _ _ ↦ rfl⟩
  cases disturbance with
  | session name =>
    by_cases hname : c.target.name = name
    · exact unmoved_of_alike _ h.1 fun hspares ↦ absurd hname hspares
    · exact hsame (h.2 hname)
  | query name d =>
    by_cases hname : c.target.name = name
    · subst hname
      exact (h.2 rfl).unmoved hids
    · exact hsame (h.1 hname)

end Tick

namespace Scraper

variable {σ : Type} (server : Clocked σ) (limits : ConnectionLimits) (namespaceName : String)

/-- Two states in which the same tick begins, and which differ only in what a disturbance sets
apart. -/
structure Disturbed (fs : Files) (disturbance : Disturbance) (t t' : TickState σ) : Prop where
  scraper : t'.scraper = t.scraper
  now : t'.now = t.now
  connections : List.Forall₂ (Tick.Separates server limits (reloaded namespaceName fs t).plan
    (reloaded namespaceName fs t).cache t.now · · disturbance) t.connections t'.connections

/-- The state in which the next tick begins, perhaps with a reload that was asked for. -/
def TickState.resumed (t : TickState σ) (requested : Bool) (now : Instant) : TickState σ :=
  { t with scraper := { t.scraper with reloadRequested := requested }, now := now }

variable {server limits namespaceName} {fs : Files} {disturbance : Disturbance}
  {t t' : TickState σ}

theorem Disturbed.targets (h : Disturbed server limits namespaceName fs disturbance t t') :
    t'.connections.map (·.target) = t.connections.map (·.target) := by
  have hconnections := h.connections
  generalize t.connections = connections at hconnections ⊢
  generalize t'.connections = connections' at hconnections ⊢
  induction hconnections with
  | nil => rfl
  | cons hc _ ih => rw [List.map_cons, List.map_cons, ih, Tick.target_of_separates hc]

theorem Disturbed.reloaded_eq (h : Disturbed server limits namespaceName fs disturbance t t') :
    reloaded namespaceName fs t' = reloaded namespaceName fs t := by
  rw [reloaded, reloaded, h.scraper, h.targets, reload, reload]
  rcases t.scraper.store.reload fs t.scraper.reloadRequested with ⟨store, set⟩
  cases set with
  | none => rfl
  | some set => rfl

/-- Target by target, the tick does the same but for the disturbance. -/
theorem Disturbed.forall₂_unmoved (h : Disturbed server limits namespaceName fs disturbance t t')
    (hids : ∀ target,
      (((reloaded namespaceName fs t).plan.definitionsFor target).map Definition.id).Nodup) :
    List.Forall₂ (Tick.Unmoved disturbance)
      ((reloaded namespaceName fs t).scrapeAll server limits namespaceName t.now t.connections)
      ((reloaded namespaceName fs t').scrapeAll server limits namespaceName t'.now
        t'.connections) := by
  rw [h.reloaded_eq, h.now, scrapeAll, scrapeAll, List.forall₂_map_left_iff,
    List.forall₂_map_right_iff]
  exact h.connections.imp fun c c' hc ↦ Tick.unmoved_of_separates hc (hids c.target.name)

/-- The contributions of what is spared have the same answers in them. -/
theorem Disturbed.contributions (h : Disturbed server limits namespaceName fs disturbance t t')
    (hids : ∀ target,
      (((reloaded namespaceName fs t).plan.definitionsFor target).map Definition.id).Nodup) :
    List.Forall₂ (fun c c' : Contribution ↦ c'.target = c.target ∧
      (disturbance.SparesTarget c.target.name → c'.up = c.up) ∧
      ∀ d, disturbance.Spares c.target.name d → c'.answer? d = c.answer? d)
      (record server limits namespaceName fs t).contributions
      (record server limits namespaceName fs t').contributions := by
  rw [record, record]
  simp only [List.forall₂_map_left_iff, List.forall₂_map_right_iff]
  exact (h.forall₂_unmoved hids).imp fun s s' hs ↦ ⟨hs.target, hs.up, hs.answer⟩

theorem Disturbed.faithful (h : Disturbed server limits namespaceName fs disturbance t t')
    {targets : List Target} {history : List TickRecord} (hfaithful : Faithful targets history t) :
    Faithful targets history t' :=
  hfaithful.between (.inl h.scraper) h.targets (Nat.le_of_eq h.now.symm)

/-- The same is kept for what is spared. -/
theorem Disturbed.cached?_tick (h : Disturbed server limits namespaceName fs disturbance t t')
    {targets : List Target} (hnames : (targets.map (·.name)).Nodup) {history : List TickRecord}
    (hfaithful : Faithful targets history t) {target : String} {d : Definition}
    (hd : d ∈ (reloaded namespaceName fs t).plan.definitionsFor target)
    (hspares : disturbance.Spares target d) :
    (tick server limits namespaceName fs t').scraper.cache.cached? target d =
      (tick server limits namespaceName fs t).scraper.cache.cached? target d := by
  have hscraped := hfaithful.scrapedWith server limits namespaceName hnames fs
  have hscraped' := (h.faithful hfaithful).scrapedWith server limits namespaceName hnames fs
  have hreloaded := h.reloaded_eq
  refine hscraped.cached?_congr hscraped' (Tick.records_aggregate namespaceName t.now _ _)
    (Tick.records_aggregate namespaceName t'.now _ _) (congrArg Scraper.plan hreloaded) h.now hd
    ?_ ?_
  · exact congrArg (fun s : Scraper ↦ s.cache.cached? target d) hreloaded
  · refine (h.contributions hscraped.ids).imp fun c c' hc ↦ ⟨hc.1, fun hname ↦ hc.2.2 d ?_⟩
    rwa [hname]

/-- The next tick is decided on alike. -/
theorem Disturbed.loadsAlike_tick (h : Disturbed server limits namespaceName fs disturbance t t')
    (requested : Bool) (now : Instant) :
    LoadsAlike ((tick server limits namespaceName fs t).resumed requested now)
      ((tick server limits namespaceName fs t').resumed requested now) := by
  have hstore : (reloaded namespaceName fs t').store = (reloaded namespaceName fs t).store :=
    congrArg Scraper.store h.reloaded_eq
  have hplan : (reloaded namespaceName fs t').plan = (reloaded namespaceName fs t).plan :=
    congrArg Scraper.plan h.reloaded_eq
  refine ⟨hstore, hplan, rfl, ?_⟩
  exact (targets_tick server limits namespaceName fs t').trans
      (h.targets.trans (targets_tick server limits namespaceName fs t).symm)

/-- Two executions of a tick agree on all that a disturbance spares. -/
structure AgreeBut (server : Clocked σ) (limits : ConnectionLimits) (namespaceName : String)
    (fs : Files) (disturbance : Disturbance) (t t' : TickState σ) : Prop where
  published : Tick.PublishedBy namespaceName (reloaded namespaceName fs t).plan
    (reloaded namespaceName fs t).cache (record server limits namespaceName fs t).contributions
    (Scraper.tick server limits namespaceName fs t).scraper.snapshot.observations
  published' : Tick.PublishedBy namespaceName (reloaded namespaceName fs t).plan
    (reloaded namespaceName fs t).cache (record server limits namespaceName fs t').contributions
    (Scraper.tick server limits namespaceName fs t').scraper.snapshot.observations
  /-- The definitions that are spared contribute the same observations. -/
  contributed : List.Forall₂ (fun c c' : Contribution ↦ c'.target = c.target ∧
      (disturbance.SparesTarget c.target.name → c'.up = c.up) ∧
      ∀ d, disturbance.Spares c.target.name d →
        c'.publishes (reloaded namespaceName fs t).cache d =
          c.publishes (reloaded namespaceName fs t).cache d)
    (record server limits namespaceName fs t).contributions
    (record server limits namespaceName fs t').contributions
  /-- The same is kept for them. -/
  kept : ∀ target, ∀ d ∈ (reloaded namespaceName fs t).plan.definitionsFor target,
    disturbance.Spares target d →
    (Scraper.tick server limits namespaceName fs t').scraper.cache.cached? target d =
      (Scraper.tick server limits namespaceName fs t).scraper.cache.cached? target d
  /-- The next tick finds the same of them due, whatever the files hold by then. -/
  due : ∀ fs' requested now target d, disturbance.Spares target d →
    (d ∈ dueAt namespaceName fs'
        ((Scraper.tick server limits namespaceName fs t').resumed requested now) target ↔
      d ∈ dueAt namespaceName fs'
        ((Scraper.tick server limits namespaceName fs t).resumed requested now) target)
  /-- The targets that are spared have the same health. -/
  health : List.Forall₂ (fun c c' : Connection σ ↦ c'.target = c.target ∧
      (disturbance.SparesTarget c.target.name → c'.health = c.health))
    (Scraper.tick server limits namespaceName fs t).connections
    (Scraper.tick server limits namespaceName fs t').connections

/-- A disturbance of one query, or of one target, stays where it is. -/
theorem Ran.tick_confines {targets : List Target} (hnames : (targets.map (·.name)).Nodup)
    {history : List TickRecord} (h : Ran server limits namespaceName targets history t)
    (hdisturbed : Disturbed server limits namespaceName fs disturbance t t') :
    AgreeBut server limits namespaceName fs disturbance t t' := by
  have hfaithful := h.faithful hnames
  have hscraped := hfaithful.scrapedWith server limits namespaceName hnames fs
  have hpublished := hfaithful.publishedBy server limits namespaceName hnames fs
  have hpublished' :=
    (hdisturbed.faithful hfaithful).publishedBy server limits namespaceName hnames fs
  rw [hdisturbed.reloaded_eq] at hpublished'
  refine ⟨hpublished, hpublished', ?_, fun target d hd hspares ↦ ?_,
    fun fs' requested now target d hspares ↦ ?_, ?_⟩
  · refine (hdisturbed.contributions hscraped.ids).imp fun c c' hc ↦
      ⟨hc.1, hc.2.1, fun d hspares ↦ ?_⟩
    exact Contribution.publishes_congr hc.1 (hc.2.1 hspares.sparesTarget) (hc.2.2 d hspares)
  · exact hdisturbed.cached?_tick hnames hfaithful hd hspares
  · exact (hdisturbed.loadsAlike_tick requested now).mem_dueAt_iff rfl fs' fun hd ↦
      hdisturbed.cached?_tick hnames hfaithful hd hspares
  · refine List.forall₂_map_left_iff.2 (List.forall₂_map_right_iff.2 ?_)
    refine (hdisturbed.forall₂_unmoved hscraped.ids).imp fun s s' hs ↦
      ⟨hs.connection.2.trans hs.connection.1.symm, ?_⟩
    rw [hs.connection.1]
    exact hs.health

/-! ### A query that fails

Two targets, and two definitions. In one of the executions one query of one target fails. -/

/-- A file with two definitions. -/
def pairFiles : Files :=
  Files.empty.write "a.toml" (Utf8.encode
    ("[[metric]]\ncontext = \"c\"\nmetricsdesc.x = \"\"\nrequest = \"x\"\n" ++
      "[[metric]]\ncontext = \"c\"\nmetricsdesc.y = \"\"\nrequest = \"y\"\n"))

/-- The second of them. -/
def definitionOfY : Definition where
  id := "c[y]"
  context := "c"
  labels := []
  columns := [⟨"y", "", .gauge, []⟩]
  fieldToAppend := none
  request := "y"
  ignoreZeroResult := false
  queryTimeout := none
  scrapeInterval := none
  databases := none

def pairTarget (name : String) : Target := ⟨name, { url := "" }, [("database", name)]⟩

/-- A target whose database answers the first query with a value, and the second one as given. -/
def pairConnection (name : String) (answer : Except DbError (List Row)) : Connection Rehearsal :=
  .start Rehearsal.server.steady .zero (pairTarget name)
    { responses := [⟨"x", .atOnce (.ok [⟨[("x", some "1")]⟩])⟩, ⟨"y", .atOnce answer⟩] }

/-- The exporter before its first tick. -/
def beforePair (answer : Except DbError (List Row)) : TickState Rehearsal :=
  ⟨.start pairFiles ["a.toml"] [pairTarget "p", pairTarget "q"],
    [pairConnection "p" answer, pairConnection "q" (.ok [⟨[("y", some "2")]⟩])], {}, .zero⟩

/-- The answers of the two executions. -/
def answered : Except DbError (List Row) := .ok [⟨[("y", some "2")]⟩]

def refused : Except DbError (List Row) := .error (.other "no")

theorem nodup_names_pair : ([pairTarget "p", pairTarget "q"].map (·.name)).Nodup := by
  decide

theorem ran_beforePair (answer : Except DbError (List Row)) :
    Ran Rehearsal.server.steady {} "dbmon" [pairTarget "p", pairTarget "q"] []
      (beforePair answer) := by
  have htargets : (beforePair answer).connections.map (·.target) =
      [pairTarget "p", pairTarget "q"] := rfl
  exact .start pairFiles ["a.toml"] htargets {} .zero

deriving instance DecidableEq for Reply

theorem disturbed_beforePair :
    Disturbed Rehearsal.server.steady {} "dbmon" pairFiles (.query "p" definitionOfY)
      (beforePair answered) (beforePair refused) := by
  refine ⟨rfl, rfl, .cons ⟨fun hne ↦ absurd rfl hne, fun _ ↦ ?_⟩
    (.cons ⟨fun _ ↦ rfl, fun heq ↦ absurd heq (by decide)⟩ .nil)⟩
  refine ⟨rfl, by decide +kernel, by decide +kernel, by decide +kernel, ?_⟩
  exact Tick.get?_replies_congr rfl (by decide +kernel)

/-- The replies to one query of the first target differ, and the executions agree on all else. -/
theorem tick_confines_refused :
    ([pairTarget "p", pairTarget "q"].map (·.name)).Nodup ∧
      Ran Rehearsal.server.steady {} "dbmon" [pairTarget "p", pairTarget "q"] []
        (beforePair answered) ∧
      (∀ answer ∈ [answered, refused],
        Keyed.get? (Tick.replies Rehearsal.server.steady {}
          (reloaded "dbmon" pairFiles (beforePair answer)).plan .empty .zero
          (pairConnection "p" answer)) definitionOfY = some (.atOnce answer)) ∧
      AgreeBut Rehearsal.server.steady {} "dbmon" pairFiles (.query "p" definitionOfY)
        (beforePair answered) (beforePair refused) :=
  ⟨nodup_names_pair, ran_beforePair answered, by decide +kernel,
    (ran_beforePair answered).tick_confines nodup_names_pair disturbed_beforePair⟩

end Scraper

end Telemetry
