import Telemetry.Command.Inputs
import Telemetry.Command.Run
import Telemetry.Exporter.Pages

/-!
# The program

The outer layer: it reads the files and the environment that a command needs, runs the command,
and prints what comes of it. Requests for pages come in on standard input, a method and a path on
each line, and the pages go to standard output. Nothing happens between requests, so each request
for metrics runs a tick. No database can be reached from here, so every target is down.
-/

namespace Telemetry.Program

/-- Reads the files at some paths; what cannot be read is left out. -/
def readFiles (files : Files) (paths : List String) : IO Files :=
  paths.foldlM (fun files (path : String) => do
    try
      let content ← IO.FS.readBinFile path
      return files.write path content.toList
    catch _ => return files) files

/-- The environment of this process. -/
def readEnvironment : IO (KeyMap String) := do
  try
    let block ← IO.FS.readBinFile "/proc/self/environ"
    return Inputs.environmentOf block.toList
  catch _ => return []

/-- The files that a command needs. -/
def readInputs (environment : KeyMap String) (words : List String) : IO Files := do
  match Arguments.read (environment.get? Command.settingsVariable) words with
  | .ok (.run i) =>
    let files ← readFiles .empty (Inputs.settingsPaths i.settingsFile)
    match Settings.load files environment "" i.settingsFile with
    | .ok s => readFiles files (Inputs.namedPaths s)
    | .error _ => return files
  | _ => return .empty

/-- Answers requests until there are no more. `latest` is when the last one was answered. -/
partial def serveRequests (x : Exporter Unit) (latest : Nat) : IO Unit := do
  let line ← (← IO.getStdin).getLine
  if line.isEmpty then return
  let moment ← IO.monoNanosNow
  let x := x.advance ⟨moment - latest⟩
  match (line.trimAscii.toString).splitOn " " with
  | [method, path] =>
    let (response, x) := x.respond method path
    IO.println s!"{response.status}"
    IO.print response.body
    (← IO.getStdout).flush
    serveRequests x moment
  | _ => serveRequests x moment

/-- Runs the command that some words ask for; the result is its exit code. -/
def run (words : List String) : IO UInt32 := do
  let environment ← readEnvironment
  let files ← readInputs environment words
  let here ← IO.currentDir
  match Command.runWords files environment here.toString words with
  | .finished t =>
    IO.print t.output
    IO.eprint t.errors
    return t.code.toUInt32
  | .serving output s =>
    IO.print output
    let server := Server.unreachable "no database driver"
    let x := (Exporter.ofSettings s server files fun _ => ()).warmUpAll
    serveRequests { x with settings := { x.settings with onDemand := true } }
      (← IO.monoNanosNow)
    return 0

end Telemetry.Program

/-- Runs the command that the words behind the name of the program ask for. -/
def main (words : List String) : IO UInt32 := Telemetry.Program.run words
