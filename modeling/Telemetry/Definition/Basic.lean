import Telemetry.KeyMap
import Telemetry.Number.Binary64
import Telemetry.Text.Blank
import Telemetry.Text.Case
import Telemetry.Text.Search
import Telemetry.Time.Duration

/-!
# Metric definitions

A metric definition says which query to run and how to read its rows: which columns are values and
of which kind, which are labels, and which one names the metric. `RawDefinition` is a definition
as written; `Definition` is one that passed every check, and `DefinitionError` says which check
another one failed.
-/

namespace Telemetry

/-- The kinds of metrics. -/
inductive MetricKind where
  | gauge
  | counter
  | histogram
  deriving DecidableEq, Repr

namespace MetricKind

/-- The word for a kind. -/
def text : MetricKind → String
  | .gauge => "gauge"
  | .counter => "counter"
  | .histogram => "histogram"

/-- Reads the word for a kind, whatever its letter case and the blanks around it. A failure gives
the word as it was understood. -/
def read (s : String) : Except String MetricKind :=
  let word := Text.lower (Text.trim s)
  if word = "gauge" then .ok .gauge
  else if word = "counter" then .ok .counter
  else if word = "histogram" then .ok .histogram
  else .error word

end MetricKind

/-- A metric definition as written. -/
structure RawDefinition where
  context : String
  labels : List String := []
  /-- The help text of each value column. -/
  help : KeyMap String := []
  /-- The kind of a value column. -/
  kinds : KeyMap String := []
  /-- For each histogram column, the upper bound of each bucket column. -/
  buckets : KeyMap (KeyMap String) := []
  fieldToAppend : Option String := none
  request : String := ""
  ignoreZeroResult : Bool := false
  queryTimeout : Option String := none
  scrapeInterval : Option String := none
  /-- The targets that the definition is for; all of them when missing. -/
  databases : Option (List String) := none
  deriving DecidableEq, Repr

/-- A value column. -/
structure MetricColumn where
  /-- The lower-cased name. -/
  name : String
  help : String
  kind : MetricKind
  /-- The bucket columns with their upper bounds, in the order of the bounds. -/
  buckets : List (String × Binary64)
  deriving DecidableEq, Repr

/-- A metric definition that passed every check. -/
structure Definition where
  /-- Unique within a loaded set. -/
  id : String
  context : String
  /-- The label columns in declared order, without the field to append. -/
  labels : List String
  columns : List MetricColumn
  fieldToAppend : Option String
  request : String
  ignoreZeroResult : Bool
  queryTimeout : Option Duration
  scrapeInterval : Option Duration
  databases : Option (List String)
  deriving DecidableEq, Repr

/-- The durations of a definition. -/
inductive DurationField where
  | queryTimeout
  | scrapeInterval
  deriving DecidableEq, Repr

/-- The key under which a duration is written. -/
def DurationField.key : DurationField → String
  | .queryTimeout => "querytimeout"
  | .scrapeInterval => "scrapeinterval"

/-- Why a definition is rejected. -/
inductive DefinitionError where
  | missingRequest (context : String)
  | missingColumns (context : String)
  | missingBuckets (context column : String)
  | unknownType (context column kind : String)
  | duplicateLabel (context label target : String)
  | invalidDuration (context : String) (field : DurationField) (value : String)
      (fault : Duration.Fault)
  deriving DecidableEq, Repr

/-- The text of an error. -/
def DefinitionError.message : DefinitionError → String
  | .missingRequest context =>
    "metric '" ++ context ++ "' has no request; did you forget to define request?"
  | .missingColumns context =>
    "metric '" ++ context ++ "' declares no output columns in metricsdesc"
  | .missingBuckets context column =>
    "metric '" ++ context ++ "' column '" ++ column ++ "' is a histogram without metricsbuckets"
  | .unknownType context column kind =>
    "metric '" ++ context ++ "' column '" ++ column ++ "' has unknown type '" ++ kind ++ "'"
  | .duplicateLabel context label target =>
    "metric '" ++ context ++ "' label '" ++ label ++
      "' duplicates a constant label of target '" ++ target ++ "'"
  | .invalidDuration context field value fault =>
    "metric '" ++ context ++ "' has an invalid " ++ field.key ++ " '" ++ value ++ "': " ++
      fault.message

end Telemetry
