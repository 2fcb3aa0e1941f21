import Telemetry.Definition.Basic
import Telemetry.Number.Decimal

/-!
# Checking definitions

`Definition.ofRaw` turns a definition as written into one that can be run, or names the first
check that it fails. The checks come in this order: the request, the columns as a whole, then for
each column in key order its type before its buckets, then the query timeout, then the scrape
interval.
-/

namespace Telemetry

/-- The value under a key that is written in any letter case; of several such keys the last in key
order counts. -/
def KeyMap.getFolded? {α : Type} (m : KeyMap α) (name : String) : Option α :=
  (m.reverse.find? fun e => Text.lower e.1 == name).map (·.2)

namespace Definition

/-- The bucket columns with a readable bound, in the order of the bounds. -/
def bucketsOf (bounds : KeyMap String) : List (String × Binary64) :=
  let readable := bounds.filterMap fun e =>
    (Decimal.readChars? (Text.trimChars e.2.toList)).map fun bound => (Text.lower e.1, bound)
  readable.mergeSort fun a b => a.2.totalLE b.2

/-- The kind of a column; a column without a type is a gauge. -/
def kindOf (context : String) (raw : RawDefinition) (name : String) :
    Except DefinitionError MetricKind :=
  match raw.kinds.getFolded? name with
  | none => .ok .gauge
  | some word =>
    match MetricKind.read word with
    | .ok kind => .ok kind
    | .error kind => .error (.unknownType context name kind)

/-- The value column under a key of the help texts. -/
def columnOf (context : String) (raw : RawDefinition) (key help : String) :
    Except DefinitionError MetricColumn := do
  let name := Text.lower key
  let kind ← kindOf context raw name
  if kind = .histogram then
    match raw.buckets.getFolded? name with
    | none => throw (.missingBuckets context name)
    | some bounds => return ⟨name, help, kind, bucketsOf bounds⟩
  else return ⟨name, help, kind, []⟩

/-- The value columns, in the order of their keys. -/
def columnsOf (context : String) (raw : RawDefinition) :
    KeyMap String → Except DefinitionError (List MetricColumn)
  | [] => .ok []
  | (key, help) :: rest => do
    let column ← columnOf context raw key help
    let columns ← columnsOf context raw rest
    return column :: columns

/-- The column that names the metric, if a text is given for it. -/
def fieldOf (written : Option String) : Option String :=
  match written with
  | none => none
  | some s => if Text.isAllBlank s then none else some (Text.lower (Text.trim s))

/-- A duration of a definition. A missing or blank one and a span of zero mean none. -/
def durationOf (context : String) (field : DurationField) (written : Option String) :
    Except DefinitionError (Option Duration) :=
  match written with
  | none => .ok none
  | some s =>
    let value := Text.trim s
    if value.isEmpty then .ok none
    else match Duration.read value with
      | .ok d => .ok (if d.nanos = 0 then none else some d)
      | .error fault => .error (.invalidDuration context field value fault)

/-- Checks a definition as written. -/
def ofRaw (raw : RawDefinition) : Except DefinitionError Definition := do
  let context := Text.trim raw.context
  if Text.isAllBlank raw.request then throw (.missingRequest context)
  if raw.help.isEmpty then throw (.missingColumns context)
  let columns ← columnsOf context raw raw.help
  let field := fieldOf raw.fieldToAppend
  let queryTimeout ← durationOf context .queryTimeout raw.queryTimeout
  let scrapeInterval ← durationOf context .scrapeInterval raw.scrapeInterval
  return {
    id := context
    context := context
    labels := (raw.labels.map Text.lower).filter fun label => some label ≠ field
    columns := columns
    fieldToAppend := field
    request := raw.request
    ignoreZeroResult := raw.ignoreZeroResult
    queryTimeout := queryTimeout
    scrapeInterval := scrapeInterval
    databases := raw.databases }

/-- The definition is for this target. -/
def isEnabledFor (d : Definition) (target : String) : Bool :=
  match d.databases with
  | none => true
  | some names => names.contains target

/-- The first label that is already among `seen` or repeats an earlier label. -/
def repeatedLabel? (seen : List String) : List String → Option String
  | [] => none
  | label :: rest =>
    if seen.contains label then some label else repeatedLabel? (label :: seen) rest

/-- Refuses a definition whose labels repeat each other or a constant label of the target. -/
def checkLabels (d : Definition) (target : String) (constant : List String) :
    Except DefinitionError Unit :=
  match repeatedLabel? constant d.labels with
  | none => .ok ()
  | some label => .error (.duplicateLabel d.context label target)

end Definition

end Telemetry
