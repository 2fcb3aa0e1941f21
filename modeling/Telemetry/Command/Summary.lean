import Telemetry.Credentials
import Telemetry.Definition.Store
import Telemetry.Settings.Basic

/-!
# The summary of a configuration

What the check of a configuration shows: the settings in force, the targets without their
passwords, and the definitions. Definitions that cannot be used are listed, and the check fails
by them.
-/

namespace Telemetry.Summary

/-- The settings of the server and of scraping. -/
def serverLines (s : Settings) : List String :=
  ["  Server: " ++ s.server.host ++ ":" ++ Text.ofNat s.server.port,
    "  Metrics Path: " ++ s.server.metricsPath,
    "  Log Level: " ++ s.server.logLevel,
    "  Log Format: " ++ s.server.logFormat,
    "  Namespace: " ++ s.metrics.namespaceName,
    "  Scraping: " ++ match s.metrics.scrapeInterval with
      | some interval => "every " ++ interval.spelled
      | none => "on demand"]

/-- A target with its place in the list. -/
def targetLine (e : (String × TargetSettings) × Nat) : String :=
  let ((name, t), place) := e
  "    " ++ Text.ofNat (place + 1) ++ ". " ++ name ++ " → " ++ Url.masked t.url ++ " (pool " ++
    Text.ofNat t.poolSize ++ ", timeout " ++ Text.ofNat t.queryTimeoutSeconds ++ "s)"

/-- The targets. -/
def targetLines (s : Settings) : List String :=
  ("  Targets: " ++ Text.ofNat s.targets.length) :: (s.targets.zipIdx 0).map targetLine

/-- Log tailing. -/
def logLines (log : LogSettings) : List String :=
  if log.enabled then
    ["  Log Tailing: enabled", "    Destination: " ++ log.destination,
      "    Interval: " ++ Text.ofNat log.intervalSeconds ++ "s"]
  else ["  Log Tailing: disabled"]

/-- The definitions. -/
def definitionLines (set : DefinitionSet) : List String :=
  ("  Metric Definitions: " ++ Text.ofNat set.definitions.length) ::
    set.definitions.map fun d =>
      "    " ++ d.context ++ " (" ++ Text.ofNat d.columns.length ++ " columns)"

/-- What is shown of valid settings. -/
def settingsLines (s : Settings) : List String :=
  ["Testing configuration...", "✓ Configuration file is valid", "", "Configuration Summary:"] ++
    serverLines s ++ [""] ++ targetLines s ++ [""] ++ logLines s.log ++ [""]

/-- The verdict on the definitions. -/
def verdictLines (problems : List String) : List String :=
  if problems.isEmpty then ["", "✓ Configuration test successful"]
  else ["", "Rejected definitions:"] ++ problems.map ("    ✗ " ++ ·)

/-- The whole summary. -/
def lines (s : Settings) (set : DefinitionSet) : List String :=
  settingsLines s ++ definitionLines set ++ verdictLines set.problems

/-- Why the check fails, if it does. -/
def failure? (set : DefinitionSet) : Option String :=
  if set.problems.isEmpty then none
  else some (Text.ofNat set.problems.length ++ " metric definition(s) rejected")

end Telemetry.Summary
