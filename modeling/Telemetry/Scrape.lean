import Telemetry.Database.Reply
import Telemetry.Observation
import Telemetry.Row

/-!
# From rows to observations

A row yields one observation for each value column of a definition that it holds a number for. A
column that is missing or unreadable costs only itself, and so does a bucket of a histogram. A
result without rows, and one without a single observation, are errors.
-/

namespace Telemetry

namespace Scrape

/-- The column with the number of observations behind a histogram. -/
def countColumn : String := "count"

/-- The distribution that a row holds for a histogram column; none without a readable count. -/
def histogramOf (row : Row) (column : MetricColumn) : Option Histogram :=
  (row.count? countColumn).map fun count =>
    ⟨count, column.buckets.filterMap fun b => (row.count? b.1).map fun n => (b.2, n)⟩

/-- The labels of a row: the constant ones, then those of the definition. -/
def labelsOf (row : Row) (d : Definition) (constant : List (String × String)) :
    List (String × String) :=
  constant ++ d.labels.map fun label => (label, row.text label)

/-- The name of the metric that a column of the row is published under. -/
def nameOf (row : Row) (d : Definition) (namespaceName : String) (column : MetricColumn) : String :=
  match d.fieldToAppend with
  | none => MetricName.join namespaceName d.context column.name
  | some field => MetricName.join namespaceName d.context (MetricName.clean (row.text field))

/-- The observation of one value column, if the row has a readable one. -/
def observationOf (row : Row) (d : Definition) (namespaceName : String)
    (constant : List (String × String)) (column : MetricColumn) : Option Observation :=
  match row.numeric column.name with
  | .absent | .invalid _ => none
  | .value x =>
    let o : Observation :=
      ⟨nameOf row d namespaceName column, column.help, labelsOf row d constant, column.kind, x,
        none⟩
    match column.kind with
    | .histogram => (histogramOf row column).map fun h => { o with histogram := some h }
    | .gauge | .counter => some o

/-- The observations of one row, in the order of the value columns. -/
def convertRow (row : Row) (d : Definition) (namespaceName : String)
    (constant : List (String × String)) : List Observation :=
  d.columns.filterMap (observationOf row d namespaceName constant)

/-- The observations of a result, in row order. -/
def convert (rows : List Row) (d : Definition) (namespaceName : String)
    (constant : List (String × String)) : Except ScrapeError (List Observation) :=
  if rows.isEmpty then .error .zeroResult
  else
    let observations := rows.flatMap fun row => convertRow row d namespaceName constant
    if observations.isEmpty then .error (.noParseableValues rows.length) else .ok observations

/-- The deadline of a definition's query. -/
def deadline (d : Definition) (default : Duration) : Duration := d.queryTimeout.getD default

/-- Computes a metric from the answer to its query. -/
def ofReply (reply : Reply (List Row)) (d : Definition) (namespaceName : String)
    (constant : List (String × String)) (default : Duration) :
    Except ScrapeError (List Observation) :=
  match reply.within (deadline d default) with
  | .error e => .error (.ofDbError e)
  | .ok rows => convert rows d namespaceName constant

end Scrape

end Telemetry
