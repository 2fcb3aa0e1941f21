import Telemetry.Definition.Basic
import Telemetry.Toml.Document

/-!
# Definition files

A definition file is a TOML document with a table per metric. The types of its values are fixed:
a file with a value of another type is refused as a whole, and keys without a meaning are passed
over.
-/

namespace Telemetry.DefinitionFile

/-- A text. -/
def text? : Toml → Option String
  | .string s => some s
  | _ => none

/-- A truth value. -/
def flag? : Toml → Option Bool
  | .boolean b => some b
  | _ => none

/-- A list of values of one type. -/
def list? {α : Type} (item? : Toml → Option α) : Toml → Option (List α)
  | .array _ elements => elements.mapM item?
  | _ => none

/-- A table of values of one type, in key order. -/
def map? {α : Type} (item? : Toml → Option α) : Toml → Option (KeyMap α)
  | .table _ entries =>
    (entries.mapM fun e => (item? e.2).map fun v => (e.1, v)).map KeyMap.ofList
  | _ => none

/-- The value under a key that may be missing; nothing when its type is wrong. -/
def optional? {α : Type} (entries : Toml.Entries) (key : String) (item? : Toml → Option α) :
    Option (Option α) :=
  match Toml.find? entries key with
  | none => some none
  | some v => (item? v).map some

/-- A metric definition. -/
def definition? : Toml → Option RawDefinition
  | .table _ entries => do
    let context ← text? (← Toml.find? entries "context")
    let labels ← optional? entries "labels" (list? text?)
    let help ← optional? entries "metricsdesc" (map? text?)
    let kinds ← optional? entries "metricstype" (map? text?)
    let buckets ← optional? entries "metricsbuckets" (map? (map? text?))
    let fieldToAppend ← optional? entries "fieldtoappend" text?
    let request ← optional? entries "request" text?
    let ignoreZeroResult ← optional? entries "ignorezeroresult" flag?
    let queryTimeout ← optional? entries "querytimeout" text?
    let scrapeInterval ← optional? entries "scrapeinterval" text?
    let databases ← optional? entries "databases" (list? text?)
    return {
      context := context
      labels := labels.getD []
      help := help.getD []
      kinds := kinds.getD []
      buckets := buckets.getD []
      fieldToAppend := fieldToAppend
      request := request.getD ""
      ignoreZeroResult := ignoreZeroResult.getD false
      queryTimeout := queryTimeout
      scrapeInterval := scrapeInterval
      databases := databases }
  | _ => none

/-- The metric definitions of a document. -/
def definitions? (entries : Toml.Entries) : Option (List RawDefinition) :=
  (optional? entries "metric" (list? definition?)).map (·.getD [])

/-- Reads a definition file. -/
def read? (text : String) : Option (List RawDefinition) := do
  definitions? (← Toml.readDocument? text)

end Telemetry.DefinitionFile
