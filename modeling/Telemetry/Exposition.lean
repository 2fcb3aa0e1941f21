import Telemetry.Keyed
import Telemetry.Number.Decimal
import Telemetry.Observation

/-!
# The text exposition

Observations in the text format in which metrics are published. Those that share a name form one
family, in the order of first appearance; the first of them decides the help text and the type of
all. A family without a name ends the text: what was written before it stays.
-/

namespace Telemetry

/-- The observations of one name. -/
structure MetricFamily where
  name : String
  help : String
  kind : MetricKind
  metrics : List Observation
  deriving DecidableEq, Repr

namespace MetricFamily

/-- The family of a name before any observation is in it. -/
def opened (o : Observation) : MetricFamily := ⟨o.name, o.help, o.kind, []⟩

/-- A family with an observation behind its others. -/
def join (f : MetricFamily) (o : Observation) : MetricFamily :=
  { f with metrics := f.metrics ++ [o] }

/-- Families that are being put together: the slot of each name, and the family in each slot. -/
structure Table where
  slots : List (String × Nat)
  families : List MetricFamily

namespace Table

/-- No families yet. -/
def empty : Table := ⟨[], []⟩

/-- The slot of the name of an observation. A name without one gets the next, and the observation
opens the family in it. -/
def slotFor (t : Table) (o : Observation) : Table × Nat :=
  match Keyed.get? t.slots o.name with
  | some slot => (t, slot)
  | none =>
    let slot := t.families.length
    (⟨Keyed.put t.slots o.name slot, t.families ++ [opened o]⟩, slot)

/-- Adds an observation to the family in the slot of its name. -/
def add (t : Table) (o : Observation) : Table :=
  let (t, slot) := t.slotFor o
  { t with families := t.families.modify slot (·.join o) }

end Table

/-- The families of a list of observations, in the order of first appearance. -/
def group (observations : List Observation) : List MetricFamily :=
  (observations.foldl Table.add .empty).families

end MetricFamily

namespace Exposition

/-- One character of a help text. -/
def escapeHelpChar (c : Char) : List Char :=
  if c = '\\' then ['\\', '\\'] else if c = '\n' then ['\\', 'n'] else [c]

/-- One character of a label value. -/
def escapeLabelChar (c : Char) : List Char :=
  if c = '"' then ['\\', '"'] else escapeHelpChar c

/-- A help text on one line. -/
def escapeHelp (s : String) : List Char := s.toList.flatMap escapeHelpChar

/-- A label value on one line and without a bare quote. -/
def escapeLabel (s : String) : List Char := s.toList.flatMap escapeLabelChar

/-- One label as it stands between the braces. -/
def label (l : String × String) : List Char :=
  l.1.toList ++ ['=', '"'] ++ escapeLabel l.2 ++ ['"']

/-- The labels between braces; nothing when there are none. -/
def labels (ls : List (String × String)) : List Char :=
  if ls.isEmpty then [] else '\x7b' :: Text.joinWith [','] (ls.map label) ++ ['\x7d']

/-- A sample line. -/
def sample (name ending : String) (ls : List (String × String)) (value : Binary64) : List Char :=
  name.toList ++ ending.toList ++ labels ls ++ [' '] ++ value.text.toList ++ ['\n']

/-- The bucket lines of a histogram: the written bounds, and the infinite one unless it was among
them. -/
def bucketLines (name : String) (ls : List (String × String)) (h : Histogram) : List Char :=
  let line (bound : String) (count : Nat) :=
    sample name "_bucket" (ls ++ [("le", bound)]) (.ofNat count)
  (h.buckets.flatMap fun b => line b.1.text b.2) ++
    (if h.buckets.any fun b => b.1 == .infinity false then [] else line "+Inf" h.count)

/-- The sample lines of an observation, written as one of the given kind. -/
def sampleLines (name : String) (kind : MetricKind) (o : Observation) : List Char :=
  match kind with
  | .gauge | .counter => sample name "" o.labels o.value
  | .histogram =>
    let h := o.histogram.getD ⟨0, []⟩
    bucketLines name o.labels h ++ sample name "_sum" o.labels o.value ++
      sample name "_count" o.labels (.ofNat h.count)

/-- The two comment lines of a family; the help line is left out when there is no help. -/
def header (f : MetricFamily) : List Char :=
  (if f.help.isEmpty then []
    else "# HELP ".toList ++ f.name.toList ++ [' '] ++ escapeHelp f.help ++ ['\n']) ++
  "# TYPE ".toList ++ f.name.toList ++ [' '] ++ f.kind.text.toList ++ ['\n']

/-- A family with its samples. -/
def family (f : MetricFamily) : List Char :=
  header f ++ f.metrics.flatMap (sampleLines f.name f.kind)

/-- The families up to the first that cannot be written: one without a name or without samples. -/
def writable (families : List MetricFamily) : List MetricFamily :=
  families.takeWhile fun f => !f.name.isEmpty && !f.metrics.isEmpty

/-- The exposition of a list of observations. -/
def render (observations : List Observation) : String :=
  String.ofList ((writable (MetricFamily.group observations)).flatMap family)

end Exposition

end Telemetry
