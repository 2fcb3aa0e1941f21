import Telemetry.Definition.Set
import Telemetry.Keyed
import Telemetry.Target.Basic

/-!
# Plans

Which definitions are computed for which target: those that are for the target, and whose labels
neither repeat each other nor a constant label of the target.
-/

namespace Telemetry

/-- The definitions of each target. -/
structure Plan where
  set : DefinitionSet
  /-- The names of the targets with their definitions. -/
  targets : List (String × List Definition)
  deriving DecidableEq, Repr

namespace Plan

/-- The definition is computed for the target. -/
def includes (t : Target) (d : Definition) : Bool :=
  d.isEnabledFor t.name && (d.checkLabels t.name t.labelNames).toBool

/-- The plan of a set of definitions for some targets. -/
def build (set : DefinitionSet) (targets : List Target) : Plan :=
  ⟨set, targets.map fun t => (t.name, set.definitions.filter (includes t))⟩

/-- The definitions of a target; a target that is not known has none. -/
def definitionsFor (plan : Plan) (target : String) : List Definition :=
  (Keyed.get? plan.targets target).getD []

end Plan

end Telemetry
