import Telemetry.Definition.Basic

/-!
# Observations

A measured value ready for publication, and how its name is put together.
-/

namespace Telemetry

/-- The distribution behind a histogram value. -/
structure Histogram where
  /-- How many observations there were. -/
  count : Nat
  /-- The upper bounds with the counts up to them, in the order of the bounds. -/
  buckets : List (Binary64 × Nat)
  deriving DecidableEq, Repr

/-- A measured value. -/
structure Observation where
  name : String
  help : String
  /-- The constant labels of the target, then those of the definition. -/
  labels : List (String × String)
  kind : MetricKind
  /-- The value; the sum for a histogram. -/
  value : Binary64
  histogram : Option Histogram
  deriving DecidableEq, Repr

namespace Observation

/-- A gauge with the given value. -/
def gauge (name help : String) (labels : List (String × String)) (value : Binary64) :
    Observation :=
  ⟨name, help, labels, .gauge, value, none⟩

/-- The value of the first label with this name. -/
def label? (o : Observation) (name : String) : Option String :=
  (o.labels.find? (·.1 == name)).map (·.2)

end Observation

namespace MetricName

/-- Joins the parts of a metric name that are not empty. -/
def join (namespaceName subsystem name : String) : String :=
  Text.join "_" ([namespaceName, subsystem, name].filter (!·.isEmpty))

/-- The characters that cleaning removes. -/
def isDropped (c : Char) : Bool := c = '(' || c = ')' || c = '/' || c = '*'

/-- Makes part of a metric name from a text: lower-cased, an underscore for a space, and without
parentheses, slashes and asterisks. -/
def clean (s : String) : String :=
  String.ofList <| Text.lowerChars <|
    (s.toList.filter (!isDropped ·)).map fun c => if c = ' ' then '_' else c

end MetricName

end Telemetry
