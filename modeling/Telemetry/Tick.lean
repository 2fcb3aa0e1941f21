import Telemetry.Cache
import Telemetry.Definition.Store
import Telemetry.Meters
import Telemetry.Plan
import Telemetry.Scrape
import Telemetry.Target.Connection

/-!
# Ticks

A tick loads the definitions again if they changed, asks every target for what is due, and
publishes one complete snapshot. All targets are asked at the same time, and so are all due
definitions of a target once it passed its check. What is not due is served from the cache.

* `Tick.scrapeTarget` is what one target does in a tick.
* `Tick.aggregate` puts together what the targets contributed, and accounts for it.
* `Scraper.tick` is a whole tick.
-/

namespace Telemetry

/-- What a tick published. -/
structure Snapshot where
  observations : List Observation := []
  /-- How many metrics could not be computed. -/
  errors : Nat := 0
  completedAt : Option Instant := none
  deriving DecidableEq, Repr

/-- A definition that was computed, and what came of it. -/
structure Computation where
  definition : Definition
  result : Except ScrapeError (List Observation)

/-- What one target contributed to a tick. -/
structure Contribution where
  target : Target
  up : Bool
  /-- The observations that were not due. -/
  cached : List (List Observation)
  /-- What was computed, in the order of completion. -/
  fresh : List Computation

namespace Tick

variable {σ : Type} (server : Clocked σ)

/-! ## One target -/

/-- Sends the queries of some definitions at one moment, in order. -/
def dispatch (session : Session) (now : Instant) :
    List Definition → σ → List (Definition × Reply (List Row)) × σ
  | [], database => ([], database)
  | d :: rest, database =>
    let (reply, database) := session.fetch (server now) d.request database
    let (replies, database) := dispatch session now rest database
    ((d, reply) :: replies, database)

/-- How long the computation of a definition takes. -/
def duration (default : Duration) (e : Definition × Reply (List Row)) : Duration :=
  e.2.elapsed (Scrape.deadline e.1 default)

/-- Replies in the order of completion; those that come at the same time stay in order. -/
def inCompletionOrder (default : Duration) (replies : List (Definition × Reply (List Row))) :
    List (Definition × Reply (List Row)) :=
  replies.mergeSort fun a b => (duration default a).nanos ≤ (duration default b).nanos

/-- The time until the last reply. -/
def longest (default : Duration) (replies : List (Definition × Reply (List Row))) : Duration :=
  ⟨(replies.map fun e => (duration default e).nanos).foldl max 0⟩

/-- The definitions of a target that have to be computed. -/
def dueDefinitions (plan : Plan) (cache : MetricCache) (target : String) (now : Instant) :
    List Definition :=
  (plan.definitionsFor target).filter fun d => cache.isDue target d now

/-- What the cache serves for a target. -/
def servedFromCache (plan : Plan) (cache : MetricCache) (target : String) (now : Instant) :
    List (List Observation) :=
  ((plan.definitionsFor target).filter fun d => !cache.isDue target d now).filterMap fun d =>
    (cache.cached? target d).map (·.observations)

/-- The contribution of a target that cannot be asked. -/
def absent (target : Target) : Contribution := ⟨target, false, [], []⟩

/-- Asks a target that passed its check, at the moment `now`. The tick began at `started`. -/
def scrapeSession (namespaceName : String) (plan : Plan) (cache : MetricCache) (started : Instant)
    (session : Session) (now : Instant) (c : Connection σ) : Settled σ Contribution :=
  let target := c.target
  let default := target.settings.queryTimeout
  let (replies, database) :=
    dispatch server session now (dueDefinitions plan cache target.name started) c.database
  let fresh := (inCompletionOrder default replies).map fun e =>
    ⟨e.1, Scrape.ofReply e.2 e.1 namespaceName target.labels default⟩
  ⟨⟨target, true, servedFromCache plan cache target.name started, fresh⟩,
    { c with database := database }, now.after (longest default replies)⟩

/-- What one target does in a tick that began at `started`. -/
def scrapeTarget (limits : ConnectionLimits) (namespaceName : String) (plan : Plan)
    (cache : MetricCache) (started : Instant) (c : Connection σ) : Settled σ Contribution :=
  let checked := c.check server limits started
  match checked.result with
  | .down | .invalid => ⟨absent c.target, checked.connection, checked.now⟩
  | .healthy =>
    match checked.connection.acquire checked.now with
    | .error _ => ⟨absent c.target, checked.connection, checked.now⟩
    | .ok session =>
      scrapeSession server namespaceName plan cache started session checked.now
        checked.connection

/-! ## All targets -/

/-- What is accounted for while the contributions are put together. -/
structure Account where
  snapshot : Snapshot := {}
  cache : MetricCache
  meters : Meters

/-- Publishes observations. -/
def Account.publish (a : Account) (observations : List Observation) : Account :=
  { a with snapshot :=
      { a.snapshot with observations := a.snapshot.observations ++ observations } }

/-- Counts a metric that could not be computed. -/
def Account.countError (namespaceName context : String) (a : Account) : Account :=
  { a with
    snapshot := { a.snapshot with errors := a.snapshot.errors + 1 }
    meters := a.meters.recordScrapeError namespaceName context }

/-- Accounts for a computation. One that succeeded is published and kept; no rows count as success
where the definition tolerates them; any other failure is counted, and what was kept before
stays. -/
def Account.addComputation (namespaceName : String) (target : Target) (started : Instant)
    (a : Account) (c : Computation) : Account :=
  match c.result with
  | .ok observations =>
    { a.publish observations with
      cache := a.cache.record target.name c.definition observations started }
  | .error e =>
    if e.shouldReport c.definition.ignoreZeroResult then
      a.countError namespaceName c.definition.context
    else { a with cache := a.cache.record target.name c.definition [] started }

/-- The observation that says whether a target is up. -/
def upObservation (namespaceName : String) (target : Target) (up : Bool) : Observation :=
  .gauge (MetricName.join namespaceName "" "up") "Whether the database server is up." target.labels
    (if up then .one else .zero)

/-- Accounts for what a target contributed. -/
def Account.addContribution (namespaceName : String) (started : Instant) (a : Account)
    (c : Contribution) : Account :=
  c.fresh.foldl (Account.addComputation namespaceName c.target started)
    ((a.publish [upObservation namespaceName c.target c.up]).publish c.cached.flatten)

/-- Accounts for what all targets contributed. -/
def aggregate (namespaceName : String) (started : Instant) (a : Account)
    (contributions : List Contribution) : Account :=
  contributions.foldl (Account.addContribution namespaceName started) a

end Tick

/-- What the scraper keeps from one tick to the next. -/
structure Scraper where
  store : DefinitionStore
  plan : Plan
  cache : MetricCache := .empty
  snapshot : Snapshot := {}
  /-- The next tick loads the definitions even if nothing changed. -/
  reloadRequested : Bool := false

namespace Scraper

/-- The scraper when the exporter starts: it loads the definitions. -/
def start (fs : Files) (sources : List String) (targets : List Target) : Scraper :=
  let (store, set) := (DefinitionStore.ofSources sources).load fs
  { store := store, plan := .build set targets }

/-- Asks for the definitions to be loaded at the next tick. -/
def requestReload (s : Scraper) : Scraper := { s with reloadRequested := true }

/-- The beginning of a tick: a set that was loaded again takes the place of the plan and empties
the cache. -/
def reload (namespaceName : String) (fs : Files) (targets : List Target) (s : Scraper)
    (meters : Meters) : Scraper × Meters :=
  let (store, set) := s.store.reload fs s.reloadRequested
  let s := { s with store := store, reloadRequested := false }
  match set with
  | none => (s, meters)
  | some set =>
    ({ s with plan := .build set targets, cache := .empty }, meters.recordReload namespaceName)

variable {σ : Type}

/-- The state around a scraper that a tick changes. -/
structure TickState (σ : Type) where
  scraper : Scraper
  connections : List (Connection σ)
  meters : Meters
  now : Instant

/-- What every target does in a tick that began at `started`, with the plan and the cache of the
scraper. -/
def scrapeAll (server : Clocked σ) (limits : ConnectionLimits) (namespaceName : String)
    (started : Instant) (s : Scraper) (connections : List (Connection σ)) :
    List (Settled σ Contribution) :=
  connections.map (Tick.scrapeTarget server limits namespaceName s.plan s.cache started)

/-- A whole tick. -/
def tick (server : Clocked σ) (limits : ConnectionLimits) (namespaceName : String) (fs : Files)
    (t : TickState σ) : TickState σ :=
  let started := t.now
  let (scraper, meters) :=
    t.scraper.reload namespaceName fs (t.connections.map (·.target)) t.meters
  let settled := scraper.scrapeAll server limits namespaceName started t.connections
  let now := (settled.map (·.now)).foldl max started
  let account := Tick.aggregate namespaceName started ⟨{}, scraper.cache, meters⟩
    (settled.map (·.result))
  let snapshot := { account.snapshot with completedAt := some now }
  { scraper := { scraper with cache := account.cache, snapshot := snapshot }
    connections := settled.map (·.connection)
    meters := account.meters.recordTick namespaceName (now.since started) snapshot.errors
    now := now }

end Scraper

end Telemetry
