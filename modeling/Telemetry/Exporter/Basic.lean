import Telemetry.Exposition
import Telemetry.Log.Tail
import Telemetry.Tick

/-!
# The exporter

The whole exporter: its settings, its connections, the scraper, the log tailer, its meters, the
files around it, and its clock, which moves only when something waits.
-/

namespace Telemetry

/-- What does not change while the exporter runs. -/
structure ExporterSettings where
  namespaceName : String := "dbmon"
  limits : ConnectionLimits := {}
  log : LogSettings := {}
  /-- Each request for metrics runs a tick. -/
  onDemand : Bool := false
  metricsPath : String := "/metrics"
  deriving DecidableEq, Repr

/-- What follows from the settings of an operator. Where no time between scrapes is set, each
request for metrics runs a tick. -/
def ExporterSettings.ofSettings (s : Settings) : ExporterSettings where
  namespaceName := s.metrics.namespaceName
  limits := { backoff := s.metrics.connectionBackoff }
  log := s.log
  onDemand := s.metrics.scrapeInterval.isNone
  metricsPath := s.server.metricsPath

/-- The exporter. -/
structure Exporter (σ : Type) where
  settings : ExporterSettings
  server : Server σ
  files : Files
  connections : List (Connection σ)
  scraper : Scraper
  /-- What is kept about the tailing of each target. -/
  tails : KeyMap TailState := []
  meters : Meters := {}
  now : Instant := 0

namespace Exporter

variable {σ : Type}

/-- Starts the exporter: opens a session for each target, and loads the definitions. -/
def start (settings : ExporterSettings) (server : Server σ) (files : Files)
    (sources : List String) (targets : List (Target × σ)) : Exporter σ :=
  { settings := settings
    server := server
    files := files
    connections := targets.map fun t => Connection.start server.steady 0 t.1 t.2
    scraper := .start files sources (targets.map (·.1)) }

/-- Starts the exporter with the settings of an operator. `database` gives the state of each
target's database. -/
def ofSettings (s : Settings) (server : Server σ) (files : Files) (database : String → σ) :
    Exporter σ :=
  start (.ofSettings s) server files s.metrics.definitionSources
    (s.targets.map fun e => (.ofSettings s.metrics.databaseLabel e.1 e.2, database e.1))

/-- The connection of a target. -/
def connection? (x : Exporter σ) (target : String) : Option (Connection σ) :=
  x.connections.find? (·.target.name == target)

/-- Puts a connection in the place of that of the same target. -/
def setConnection (x : Exporter σ) (c : Connection σ) : Exporter σ :=
  { x with connections := x.connections.map fun present =>
      if present.target.name = c.target.name then c else present }

/-- Changes the database of a target. -/
def changeDatabase (x : Exporter σ) (target : String) (change : σ → σ) : Exporter σ :=
  { x with connections := x.connections.map fun c =>
      if c.target.name = target then { c with database := change c.database } else c }

/-- Lets time pass. -/
def advance (x : Exporter σ) (d : Duration) : Exporter σ := { x with now := x.now.after d }

/-- Runs an operation on the connection of a target. -/
def settle {α : Type} (x : Exporter σ) (target : String)
    (operation : Instant → Connection σ → Settled σ α) : Option α × Exporter σ :=
  match x.connection? target with
  | none => (none, x)
  | some c =>
    let settled := operation x.now c
    (some settled.result, { x.setConnection settled.connection with now := settled.now })

/-- Checks a target. -/
def check (x : Exporter σ) (target : String) : Option Health × Exporter σ :=
  x.settle target fun now c => c.check x.server.steady x.settings.limits now

/-- Fills the pool of a target. -/
def warmUp (x : Exporter σ) (target : String) : Option Bool × Exporter σ :=
  x.settle target fun now c => c.warmUp x.server.steady x.settings.limits now

/-- Fills the pools of all targets, one after the other. -/
def warmUpAll (x : Exporter σ) : Exporter σ :=
  (x.connections.map (·.target.name)).foldl (fun x target => (x.warmUp target).2) x

/-- Runs a tick. -/
def tick (x : Exporter σ) : Exporter σ :=
  let t := Scraper.tick x.server.steady x.settings.limits x.settings.namespaceName x.files
    ⟨x.scraper, x.connections, x.meters, x.now⟩
  { x with scraper := t.scraper, connections := t.connections, meters := t.meters, now := t.now }

/-- What is kept about the tailing of a target. -/
def tailState (x : Exporter σ) (target : String) : TailState := (x.tails.get? target).getD {}

/-- Counts what a cycle appended. -/
def recordCycle (meters : Meters) (namespaceName target : String) (outcome : Tail.Outcome) :
    Meters :=
  match outcome.count? with
  | some n => if n > 0 then meters.recordLogLines namespaceName target n else meters
  | none => meters

/-- Runs a cycle of log tailing for a target. -/
def tail (x : Exporter σ) (target : String) : Option Nat × Exporter σ :=
  match x.connection? target with
  | none => (none, x)
  | some c =>
    let state := x.tailState target
    let cycle := Tail.cycle x.server.steady x.settings.limits x.settings.log state x.files x.now c
    (cycle.outcome.count?,
      { x.setConnection cycle.connection with
        files := cycle.files
        tails := x.tails.insert target (cycle.outcome.update state)
        meters := recordCycle x.meters x.settings.namespaceName target cycle.outcome
        now := cycle.now })

/-- Runs a cycle of log tailing for every target. All begin at the same moment. -/
def tailAll (x : Exporter σ) : Exporter σ :=
  let began := x.now
  (x.connections.map (·.target.name)).foldl (fun x target =>
    let tailed := ({ x with now := began }.tail target).2
    { tailed with now := max x.now tailed.now }) x

/-- Asks for the definitions to be loaded at the next tick. -/
def requestReload (x : Exporter σ) : Exporter σ :=
  { x with scraper := x.scraper.requestReload }

/-- The exposition of the last snapshot. -/
def exposition (x : Exporter σ) : String := Exposition.render x.scraper.snapshot.observations

end Exporter

end Telemetry
