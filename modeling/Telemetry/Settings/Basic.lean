import Telemetry.KeyMap
import Telemetry.Text.Search
import Telemetry.Time.Duration

/-!
# Settings

Everything that an operator can set, with the values that hold where nothing is set, and what
follows from a setting: the size of a session pool, deadlines, and the file that a target's log
goes to.
-/

namespace Telemetry

/-- The settings of the page that metrics are published on. -/
structure ServerSettings where
  host : String := "0.0.0.0"
  port : Nat := 9161
  metricsPath : String := "/metrics"
  logLevel : String := "info"
  logFormat : String := "text"
  deriving DecidableEq, Repr

/-- The settings of scraping. -/
structure MetricsSettings where
  namespaceName : String := "dbmon"
  /-- The constant label that carries the name of a target. -/
  databaseLabel : String := "database"
  /-- The file with the built-in definitions. -/
  builtIn : Option String := none
  /-- More files with definitions. -/
  custom : List String := []
  /-- Zero stands for a scrape at every request. -/
  scrapeIntervalSeconds : Nat := 0
  connectionBackoffSeconds : Nat := 300
  deriving DecidableEq, Repr

namespace MetricsSettings

/-- The time between scrapes; none when each request brings one about. -/
def scrapeInterval (s : MetricsSettings) : Option Duration :=
  if s.scrapeIntervalSeconds > 0 then some (.ofSeconds s.scrapeIntervalSeconds) else none

/-- How long a target is left alone after it rejected credentials. -/
def connectionBackoff (s : MetricsSettings) : Duration := .ofSeconds s.connectionBackoffSeconds

/-- The files with definitions, the built-in ones first. -/
def definitionSources (s : MetricsSettings) : List String := s.builtIn.toList ++ s.custom

end MetricsSettings

/-- The settings of log tailing. -/
structure LogSettings where
  enabled : Bool := false
  intervalSeconds : Nat := 15
  /-- The local file; the name of the target takes the place of a placeholder. -/
  destination : String := "/log/alert.log"
  query : String := ""
  deriving DecidableEq, Repr

namespace LogSettings

/-- What stands for the name of the target in a destination. -/
def targetMark : String := "\x7btarget\x7d"

/-- What stands for the moment to resume from in a query. -/
def sinceMark : String := "\x7bsince\x7d"

/-- The time between cycles, a second at least. -/
def interval (s : LogSettings) : Duration := .ofSeconds (max s.intervalSeconds 1)

/-- The file that the log of a target goes to. -/
def destinationFor (s : LogSettings) (target : String) : String :=
  Text.replace s.destination targetMark target

end LogSettings

/-- The settings of one target. -/
structure TargetSettings where
  url : String
  username : Option String := none
  password : Option String := none
  passwordFile : Option String := none
  passwordEnv : Option String := none
  usernameEnv : Option String := none
  /-- The role that a session takes on. -/
  role : Option String := none
  maxOpenConns : Nat := 10
  poolMinConnections : Nat := 0
  poolMaxConnections : Option Nat := none
  queryTimeoutSeconds : Nat := 5
  /-- Constant labels for every observation of the target. -/
  labels : KeyMap String := []
  deriving DecidableEq, Repr

namespace TargetSettings

/-- The greatest size of a session pool. -/
def maxPoolSize : Nat := 100

/-- The size of the session pool, from one to the greatest: the number of open connections where
that is set, else that of pooled ones. -/
def poolSize (s : TargetSettings) : Nat :=
  let size := if s.maxOpenConns ≥ 1 then s.maxOpenConns else s.poolMaxConnections.getD 1
  max 1 (min size maxPoolSize)

/-- The deadline of a query that has none of its own, a second at least. -/
def queryTimeout (s : TargetSettings) : Duration := .ofSeconds (max s.queryTimeoutSeconds 1)

end TargetSettings

/-- All settings. -/
structure Settings where
  server : ServerSettings := {}
  metrics : MetricsSettings := {}
  log : LogSettings := {}
  targets : KeyMap TargetSettings := []
  deriving DecidableEq, Repr

end Telemetry
