import Telemetry.Command.Arguments
import Telemetry.Command.Summary
import Telemetry.Exporter.Pages
import Telemetry.Settings.Load
import Telemetry.Url.Host

/-!
# Running a command

What a command prints and how it ends. A command that serves metrics does not end by itself: the
outcome then holds the settings to serve with.
-/

namespace Telemetry

/-- What a command that ended has printed, and its exit code. -/
structure Transcript where
  code : Nat := 0
  output : String := ""
  errors : String := ""
  deriving DecidableEq, Repr

/-- What a command comes to. -/
inductive Outcome where
  | finished (transcript : Transcript)
  /-- Metrics are to be served, once the output is printed. -/
  | serving (output : String) (settings : Settings)

namespace Outcome

/-- Success with some output. -/
def success (output : String) : Outcome := .finished { output := output }

/-- Failure with an error behind some output. An error may have a cause. -/
def failure (output error : String) (cause : Option String) : Outcome :=
  .finished
    { code := 1
      output := output
      errors := "Error: " ++ error ++ "\n" ++ match cause with
        | some cause => "\nCaused by:\n    " ++ cause ++ "\n"
        | none => "" }

end Outcome

namespace Command

/-- The text is an internet address of either kind. -/
def isAddress (host : String) : Bool :=
  let cs := host.toList
  (Host.ipv4Pieces? cs).isSome || (Host.readIpv6 cs).toBool

/-- Begins to serve. The host is an address and not a name. -/
def runStart (s : Settings) : Outcome :=
  let output := "Starting dbmon in foreground mode...\n"
  if isAddress s.server.host then .serving output s
  else .failure output ("Invalid server host: " ++ s.server.host)
    (some "invalid IP address syntax")

variable [TomlFaults]

/-- Checks the definitions, and shows what is in force. -/
def runTest (fs : Files) (s : Settings) : Outcome :=
  let (_, set) := (DefinitionStore.ofSources s.metrics.definitionSources).load fs
  let output := Usage.paragraph (Summary.lines s set)
  match Summary.failure? set with
  | some error => .failure output error none
  | none => .success output

/-- Runs a command. `here` is the full path of the current directory. -/
def run (fs : Files) (environment : KeyMap String) (here : String) (i : Invocation) : Outcome :=
  if i.command = .version then .success (programName ++ " v" ++ Telemetry.version ++ "\n")
  else
    match Settings.load fs environment here i.settingsFile with
    | .error e => .failure "" e.message none
    | .ok s => if i.command = .test then runTest fs s else runStart s

/-- Does what some words behind the name of the program ask for. -/
def runWords (fs : Files) (environment : KeyMap String) (here : String) (words : List String) :
    Outcome :=
  let named := environment.get? settingsVariable
  match Arguments.read named words with
  | .error e => .finished { code := 2, errors := e.message }
  | .ok (.run i) => run fs environment here i
  | .ok (.help place) => .success (Usage.help place (named.getD ""))
  | .ok .helpOnHelp => .success Usage.helpOnHelp
  | .ok .programVersion => .success (programName ++ " " ++ Telemetry.version ++ "\n")

end Command

end Telemetry
