import Telemetry.Command.Run

/-!
# What a command reads

The files that a command looks at, so that they can be read before it runs: the candidates for the
settings file, and then what the settings name. The environment comes as one block of bytes.
-/

namespace Telemetry.Inputs

/-- The variables in a block of bytes, in which each is followed by a zero. -/
def environmentOf (block : List UInt8) : KeyMap String :=
  let texts := Text.splitOnChar (·.toNat = 0) (Utf8.decodeLossy block).toList
  .ofList ((texts.filter fun t => t.contains '=').map fun t =>
    let name := t.takeWhile (· ≠ '=')
    (String.ofList name, String.ofList (t.drop (name.length + 1))))

/-- The paths at which the settings file may be. -/
def settingsPaths (path : String) : List String :=
  path :: SettingsFormat.all.map fun f => SettingsFile.trimmed path ++ "." ++ f.extension

/-- The paths that settings name. -/
def namedPaths (s : Settings) : List String :=
  s.metrics.definitionSources ++ s.targets.filterMap fun e => e.2.passwordFile

end Telemetry.Inputs
