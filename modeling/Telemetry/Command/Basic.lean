/-!
# Commands

What the program can be told to do, and what it needs to know for it.
-/

namespace Telemetry

/-- What the program can be told to do. -/
inductive Command where
  /-- Serve metrics. -/
  | start
  /-- Check the settings and the definitions. -/
  | test
  | version
  deriving DecidableEq, Repr

namespace Command

/-- The name of the program. -/
def programName : String := "dbmon"

/-- The variable that names the settings file. -/
def settingsVariable : String := "DBMON_CONFIG"

/-- The settings file where none is named. -/
def defaultSettings : String := "dbmon.toml"

/-- The commands in the order in which they are listed. -/
def all : List Command := [.start, .test, .version]

/-- The word for a command. -/
def name : Command → String
  | .start => "start"
  | .test => "test"
  | .version => "version"

/-- What a command does. -/
def about : Command → String
  | .start => "Start the exporter (default)"
  | .test => "Validate the configuration and metric definitions, then exit"
  | .version => "Show version information"

/-- The word that asks for help, in the place of a command. -/
def helpName : String := "help"

/-- What the word for help does. -/
def helpAbout : String := "Print this message or the help of the given subcommand(s)"

/-- The command with a name. -/
def ofName? (word : String) : Option Command := all.find? (·.name == word)

end Command

/-- What the program is asked for. -/
structure Invocation where
  command : Command
  settingsFile : String
  deriving DecidableEq, Repr

end Telemetry
