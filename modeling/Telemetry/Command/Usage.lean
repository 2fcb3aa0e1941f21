import Telemetry.Command.Basic
import Telemetry.Text.Search

/-!
# Usage

The options of the program, its pages of help, and what it says to arguments that it does not
understand. Help is for the whole program or for one command; a command has the same options, and
only the program has the one for its version.
-/

namespace Telemetry

/-- The options of the program. -/
inductive CommandOption where
  | settings
  | help
  | version
  deriving DecidableEq, Repr

namespace CommandOption

/-- The long name of an option. -/
def longName : CommandOption → String
  | .settings => "config"
  | .help => "help"
  | .version => "version"

/-- The letter of an option. -/
def letter : CommandOption → Char
  | .settings => 'c'
  | .help => 'h'
  | .version => 'V'

/-- The option as usage shows it. -/
def shown : CommandOption → String
  | .settings => "--config <CONFIG>"
  | o => "--" ++ o.longName

/-- The options at a place: before a command, or behind one. -/
def allAt : Option Command → List CommandOption
  | none => [.settings, .help, .version]
  | some _ => [.settings, .help]

/-- What an option does. The variable that stands in for it is shown with its value. -/
def about (variableValue : String) : CommandOption → String
  | .settings => "Configuration file path [env: " ++ Command.settingsVariable ++ "=" ++
      variableValue ++ "] [default: " ++ Command.defaultSettings ++ "]"
  | .help => "Print help"
  | .version => "Print version"

end CommandOption

namespace Usage

/-- The words that lead to a place. -/
def path : Option Command → String
  | none => Command.programName
  | some c => Command.programName ++ " " ++ c.name

/-- What may be written at a place. -/
def general (place : Option Command) : String :=
  "Usage: " ++ path place ++ match place with
    | none => " [OPTIONS] [COMMAND]"
    | some _ => " [OPTIONS]"

/-- What may be written at a place with some options. -/
def withOptions (place : Option Command) (options : List CommandOption) : String :=
  if options.isEmpty then general place
  else "Usage: " ++ Text.join " " (path place :: options.map (·.shown))

/-- A text and blanks up to a width. -/
def padded (width : Nat) (s : String) : String :=
  s ++ String.ofList (List.replicate (width - s.length) ' ')

/-- Lines of two columns. -/
def columns (width : Nat) (lines : List (String × String)) : List String :=
  lines.map fun l => "  " ++ padded width l.1 ++ "  " ++ l.2

/-- The commands with what they do. -/
def commandLines : List String :=
  columns 7 (Command.all.map (fun c => (c.name, c.about)) ++
    [(Command.helpName, Command.helpAbout)])

/-- The options at a place with what they do. -/
def optionLines (place : Option Command) (variableValue : String) : List String :=
  columns 21 ((CommandOption.allAt place).map fun o =>
    (String.ofList ['-', o.letter] ++ ", " ++ o.shown, o.about variableValue))

/-- Lines, each with its end. -/
def paragraph (lines : List String) : String := String.join (lines.map (· ++ "\n"))

/-- The help for the program or for a command. -/
def help (place : Option Command) (variableValue : String) : String :=
  let about := match place with
    | none => "Database telemetry exporter"
    | some c => c.about
  let commands := match place with
    | none => ["", "Commands:"] ++ commandLines
    | some _ => []
  paragraph ([about, "", general place] ++ commands ++ ["", "Options:"] ++
    optionLines place variableValue)

/-- The help for the word that asks for help. -/
def helpOnHelp : String :=
  paragraph [Command.helpAbout, "", "Usage: " ++ Command.programName ++ " help [COMMAND]...", "",
    "Arguments:", "  [COMMAND]...  Print help for the subcommand(s)"]

end Usage

/-- Why arguments are not understood. -/
inductive UsageError where
  /-- A word where a command may stand; some commands are similar to it. -/
  | unknownCommand (place : Option Command) (word : String) (similar : List String)
  /-- A command behind the mark that ends options. -/
  | commandTooLate (word : String)
  /-- A word or an option that has no meaning at its place. An option may be similar to it; the
  other options are those that were given at that place. -/
  | unknownArgument (place : Option Command) (word : String) (similar : Option CommandOption)
      (given : List CommandOption)
  /-- An option without its value. -/
  | missingValue
  /-- An option was given twice. -/
  | repeated (place : Option Command)
  /-- A value for an option that takes none. -/
  | unexpectedValue (place : Option Command) (option : CommandOption) (value : String)
  deriving DecidableEq, Repr

namespace UsageError

/-- What is wrong. -/
def head : UsageError → String
  | .unknownCommand _ word _ => "unrecognized subcommand '" ++ word ++ "'"
  | .commandTooLate word | .unknownArgument _ word _ _ =>
    "unexpected argument '" ++ word ++ "' found"
  | .missingValue =>
    "a value is required for '" ++ CommandOption.settings.shown ++ "' but none was supplied"
  | .repeated _ =>
    "the argument '" ++ CommandOption.settings.shown ++ "' cannot be used multiple times"
  | .unexpectedValue _ option value =>
    "unexpected value '" ++ value ++ "' for '" ++ option.shown ++
      "' found; no more were expected"

/-- A word in quotes. -/
def quoted (word : String) : String := "'" ++ word ++ "'"

/-- Similar words, as a hint. -/
def similarHint (kind : String) : List String → Option String
  | [] => none
  | [word] => some ("a similar " ++ kind ++ " exists: " ++ quoted word)
  | words => some ("some similar " ++ kind ++ "s exist: " ++ Text.join ", " (words.map quoted))

/-- What may be meant instead. -/
def hint? : UsageError → Option String
  | .unknownCommand _ _ similar => similarHint "subcommand" similar
  | .commandTooLate word =>
    some ("subcommand '" ++ word ++ "' exists; to use it, remove the '--' before it")
  | .unknownArgument _ _ similar _ =>
    similarHint "argument" (similar.toList.map fun o => "--" ++ o.longName)
  | _ => none

/-- The usage that goes with an error. -/
def usage? : UsageError → Option String
  | .unknownCommand place _ _ | .repeated place | .unexpectedValue place _ _ =>
    some (Usage.general place)
  | .commandTooLate _ => some (Usage.general none)
  | .unknownArgument place _ similar given =>
    some (Usage.withOptions place (given ++ similar.toList.filter (!given.contains ·)))
  | .missingValue => none

/-- The text of an error. -/
def message (e : UsageError) : String :=
  Text.join "\n\n" (["error: " ++ e.head] ++ (e.hint?.map ("  tip: " ++ ·)).toList ++
    e.usage?.toList ++ ["For more information, try '--help'.\n"])

end UsageError

end Telemetry
