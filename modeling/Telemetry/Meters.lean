import Telemetry.Keyed
import Telemetry.Number.Decimal
import Telemetry.Text.Search
import Telemetry.Time.Duration

/-!
# Meters

What the exporter measures of itself: counters that only grow, and gauges that show the last tick.
A meter appears once it was recorded, and some counters have a label. The text of the meters has a
help and a type line for each meter, and a sample line for each label value.
-/

namespace Telemetry

/-- The meters of the exporter. -/
inductive Meter where
  | scrapesTotal
  | lastScrapeDuration
  | lastScrapeError
  | lastScrapeErrorCount
  | scrapeErrorsTotal
  | definitionReloadsTotal
  | logLinesTotal
  deriving DecidableEq, Repr

namespace Meter

/-- All meters. -/
def all : List Meter :=
  [.scrapesTotal, .lastScrapeDuration, .lastScrapeError, .lastScrapeErrorCount,
    .scrapeErrorsTotal, .definitionReloadsTotal, .logLinesTotal]

/-- The last part of the name of a meter. -/
def suffix : Meter → String
  | .scrapesTotal => "scrapes_total"
  | .lastScrapeDuration => "last_scrape_duration_seconds"
  | .lastScrapeError => "last_scrape_error"
  | .lastScrapeErrorCount => "last_scrape_error_count"
  | .scrapeErrorsTotal => "scrape_errors_total"
  | .definitionReloadsTotal => "definition_reloads_total"
  | .logLinesTotal => "log_lines_total"

/-- What a meter tells. -/
def help : Meter → String
  | .scrapesTotal => "Total number of times the databases were scraped for metrics"
  | .lastScrapeDuration => "Duration of the last scrape of metrics from the databases"
  | .lastScrapeError =>
    "Whether the last scrape of metrics resulted in an error (1 for error, 0 for success)"
  | .lastScrapeErrorCount => "Number of metric computations that failed during the last scrape"
  | .scrapeErrorsTotal => "Total number of errors while scraping, by metric context"
  | .definitionReloadsTotal => "Total number of metric definition reloads"
  | .logLinesTotal => "Total number of log records appended, by database"

/-- The meter only grows. -/
def isCounter : Meter → Bool
  | .scrapesTotal | .scrapeErrorsTotal | .definitionReloadsTotal | .logLinesTotal => true
  | .lastScrapeDuration | .lastScrapeError | .lastScrapeErrorCount => false

/-- The label of a meter. -/
def label? : Meter → Option String
  | .scrapeErrorsTotal => some "collector"
  | .logLinesTotal => some "database"
  | _ => none

/-- A character that a name may hold; digits may not be the first. -/
def isNameChar (first : Bool) (c : Char) : Bool :=
  c.isAlpha || c = '_' || c = ':' || (!first && c.isDigit)

/-- A name with underscores in the place of what a name may not hold. -/
def validName : List Char → List Char
  | [] => []
  | c :: cs =>
    (if isNameChar true c then c else '_') :: cs.map fun c => if isNameChar false c then c else '_'

/-- The name of a meter in a namespace. -/
def name (m : Meter) (namespaceName : String) : List Char :=
  validName (namespaceName ++ "_exporter_" ++ m.suffix).toList

end Meter

/-- A value of a meter: its namespace, and the value of its label. -/
structure MeterKey where
  namespaceName : String
  meter : Meter
  labelValue : Option String
  deriving DecidableEq, Repr

/-- The values of the counters and the gauges. -/
structure Meters where
  counters : List (MeterKey × Nat) := []
  gauges : List (MeterKey × Binary64) := []
  deriving DecidableEq, Repr

namespace Meters

/-- What a counter stands at; zero before it was recorded. -/
def count (m : Meters) (key : MeterKey) : Nat :=
  (Keyed.get? m.counters key).getD 0

/-- What a gauge shows. -/
def gauge? (m : Meters) (key : MeterKey) : Option Binary64 :=
  Keyed.get? m.gauges key

/-- Adds to a counter. -/
def add (m : Meters) (key : MeterKey) (n : Nat) : Meters :=
  { m with counters := Keyed.put m.counters key (m.count key + n) }

/-- Sets a gauge. -/
def set (m : Meters) (key : MeterKey) (x : Binary64) : Meters :=
  { m with gauges := Keyed.put m.gauges key x }

variable (namespaceName : String)

/-- A tick is over. -/
def recordTick (duration : Duration) (errors : Nat) (m : Meters) : Meters :=
  let key (meter : Meter) : MeterKey := ⟨namespaceName, meter, none⟩
  (((m.add (key .scrapesTotal) 1).set (key .lastScrapeDuration) duration.seconds).set
    (key .lastScrapeError) (if errors > 0 then .one else .zero)).set
    (key .lastScrapeErrorCount) (.ofNat errors)

/-- A metric of a context could not be computed. -/
def recordScrapeError (context : String) (m : Meters) : Meters :=
  m.add ⟨namespaceName, .scrapeErrorsTotal, some context⟩ 1

/-- The definitions were loaded again. -/
def recordReload (m : Meters) : Meters := m.add ⟨namespaceName, .definitionReloadsTotal, none⟩ 1

/-- So many log records of a database were appended. -/
def recordLogLines (database : String) (lines : Nat) (m : Meters) : Meters :=
  m.add ⟨namespaceName, .logLinesTotal, some database⟩ lines

/-! ## Showing the meters -/

/-- The value of a label between its quotes. A backslash before a quote or another backslash
counts as an escape that was already made; `pending` tells that one was just seen. -/
def escapeLabel (pending : Bool) : List Char → List Char
  | [] => if pending then ['\\', '\\'] else []
  | c :: cs =>
    if c = '\n' then '\\' :: 'n' :: escapeLabel pending cs
    else if c = '"' then '\\' :: '"' :: escapeLabel false cs
    else if c = '\\' then
      if pending then '\\' :: '\\' :: escapeLabel false cs else escapeLabel true cs
    else if pending then '\\' :: '\\' :: c :: escapeLabel false cs
    else c :: escapeLabel false cs

/-- The sample line of a value. -/
def sampleLine (key : MeterKey) (value : String) : String :=
  let labels := match key.meter.label?, key.labelValue with
    | some label, some v =>
      '\x7b' :: label.toList ++ ['=', '"'] ++ escapeLabel false v.toList ++ ['"', '\x7d']
    | _, _ => []
  String.ofList (key.meter.name key.namespaceName ++ labels ++ ' ' :: value.toList)

/-- The two comment lines of a meter. -/
def headLines (key : MeterKey) : List String :=
  let name := String.ofList (key.meter.name key.namespaceName)
  ["# HELP " ++ name ++ " " ++ key.meter.help,
    "# TYPE " ++ name ++ " " ++ (if key.meter.isCounter then "counter" else "gauge")]

/-- The lines of all meters, in the order of their characters. -/
def lines (m : Meters) : List String :=
  let keys := m.counters.map (·.1) ++ m.gauges.map (·.1)
  let samples := m.counters.map (fun e => sampleLine e.1 (Text.ofNat e.2)) ++
    m.gauges.map fun e => sampleLine e.1 e.2.text
  ((keys.flatMap headLines).eraseDups ++ samples).mergeSort fun a b => a ≤ b

end Meters

end Telemetry
