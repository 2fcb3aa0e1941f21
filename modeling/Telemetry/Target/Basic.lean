import Telemetry.Settings.Basic

/-!
# Targets

A database that is monitored: its name, its settings, and the constant labels that every
observation of it carries. The label with its name comes first, and no other label has that
label's name.
-/

namespace Telemetry

/-- A database that is monitored. -/
structure Target where
  name : String
  settings : TargetSettings
  /-- The constant labels. -/
  labels : List (String × String)
  deriving DecidableEq, Repr

namespace Target

/-- The target with these settings. `databaseLabel` is the label that carries its name. -/
def ofSettings (databaseLabel name : String) (settings : TargetSettings) : Target :=
  ⟨name, settings, (databaseLabel, name) :: settings.labels.filter (·.1 ≠ databaseLabel)⟩

/-- The names of the constant labels. -/
def labelNames (t : Target) : List String := t.labels.map (·.1)

end Target

end Telemetry
