import Telemetry.Settings.Basic
import Telemetry.Text.Blank

/-!
# Checking settings

What settings must satisfy before anything is started with them, and the first thing that is wrong
where they do not.
-/

namespace Telemetry

/-- What is wrong with settings that could be read. -/
inductive SettingsProblem where
  | noTargets
  | unnamedTarget
  | blankUrl (target : String)
  | relativePath (path : String)
  | takenPath (path : String)
  | noNamespace
  | noLogQuery
  /-- Several targets would write to one file. -/
  | sharedDestination
  deriving DecidableEq, Repr

/-- The text of a problem. -/
def SettingsProblem.message : SettingsProblem → String
  | .noTargets => "At least one target must be configured"
  | .unnamedTarget => "Target name cannot be empty"
  | .blankUrl target => "Target '" ++ target ++ "' has an empty url"
  | .relativePath path => "metrics_path must start with '/': " ++ path
  | .takenPath path => "metrics_path '" ++ path ++ "' collides with a built-in route"
  | .noNamespace => "Metrics namespace cannot be empty"
  | .noLogQuery => "Log tailing is enabled but log.query is empty"
  | .sharedDestination =>
    "log.destination must contain '" ++ LogSettings.targetMark ++
      "' when several targets are tailed"

/-- Checks the targets in the order of their names. -/
def checkTargets : KeyMap TargetSettings → Except SettingsProblem Unit
  | [] => .ok ()
  | (name, target) :: rest =>
    if name.isEmpty then .error .unnamedTarget
    else if Text.isAllBlank target.url then .error (.blankUrl name)
    else checkTargets rest

/-- Checks the path of the page with the metrics. -/
def ServerSettings.check (s : ServerSettings) : Except SettingsProblem Unit :=
  if s.metricsPath.toList.head? ≠ some '/' then .error (.relativePath s.metricsPath)
  else if s.metricsPath = "/" || s.metricsPath = "/health" then
    .error (.takenPath s.metricsPath)
  else .ok ()

/-- Checks log tailing of so many targets. -/
def LogSettings.check (s : LogSettings) (targets : Nat) : Except SettingsProblem Unit :=
  if !s.enabled then .ok ()
  else if Text.isAllBlank s.query then .error .noLogQuery
  else if targets > 1 && !Text.contains s.destination LogSettings.targetMark then
    .error .sharedDestination
  else .ok ()

/-- Checks all settings. -/
def Settings.check (s : Settings) : Except SettingsProblem Unit := do
  if s.targets.isEmpty then throw .noTargets
  checkTargets s.targets
  s.server.check
  if s.metrics.namespaceName.isEmpty then throw .noNamespace
  s.log.check s.targets.length

end Telemetry
