import Telemetry.Files
import Telemetry.Format.Json
import Telemetry.Settings.Check
import Telemetry.Settings.Reader
import Telemetry.Toml.Document

/-!
# Loading settings

Settings are read from one file, whose format shows in the extension of its name, and from the
environment, which is laid over the file. A path whose name alone leads to no file is tried with
the extension of each format.
-/

namespace Telemetry

/-- The formats of a settings file. -/
inductive SettingsFormat where
  | toml
  | json
  deriving DecidableEq, Repr

namespace SettingsFormat

/-- The formats in the order in which they are tried. -/
def all : List SettingsFormat := [.toml, .json]

/-- The extension of a format. -/
def extension : SettingsFormat → String
  | .toml => "toml"
  | .json => "json"

end SettingsFormat

/-- Why settings cannot be loaded. -/
inductive SettingsError where
  | notFound (path : String)
  /-- The file exists, and its name tells no format. -/
  | unknownFormat (fullPath : String)
  | file (cause : FileError)
  /-- The file is no document of its format. -/
  | malformed (path : String)
  | read (cause : ReadError)
  | invalid (problem : SettingsProblem)
  deriving DecidableEq, Repr

/-- The text of an error. -/
def SettingsError.message : SettingsError → String
  | .notFound path => "configuration file \"" ++ path ++ "\" not found"
  | .unknownFormat fullPath =>
    "configuration file \"" ++ fullPath ++ "\" is not of a registered file format"
  | .file cause => cause.message
  | .malformed path => "malformed configuration in " ++ path
  | .read cause => cause.message
  | .invalid problem => problem.message

namespace SettingsFile

/-- The parts of a path, without those that lead nowhere. -/
def parts (path : String) : List String :=
  (Files.components path).filter fun part => part ≠ "" && part ≠ "."

/-- The name at the end of a path. -/
def nameOf (path : String) : String :=
  match (parts path).getLast? with
  | some name => if name = ".." then "" else name
  | none => ""

/-- What stands behind the last point of a name, unless nothing stands before it. -/
def extensionOf (name : String) : String :=
  let cs := name.toList.reverse
  let ending := cs.takeWhile (· ≠ '.')
  if (cs.drop (ending.length + 1)).isEmpty then "" else String.ofList ending.reverse

/-- The reverse of a path without the slashes and lone points at its head. -/
def dropEnding : Nat → List Char → List Char
  | fuel + 1, '/' :: cs => dropEnding fuel cs
  | fuel + 1, '.' :: '/' :: cs => dropEnding fuel ('/' :: cs)
  | _, cs => cs

/-- A path without what may follow the name at its end. -/
def trimmed (path : String) : String :=
  String.ofList (dropEnding path.length path.toList.reverse).reverse

/-- The path begins at the root. -/
def isAbsolute (path : String) : Bool := path.toList.head? = some '/'

/-- There is a file, and no directory, at a path. -/
def isFile (fs : Files) (path : String) : Bool :=
  match fs.place path with
  | .ok place => match fs.at? place with
    | some (.file _) => true
    | _ => false
  | .error _ => false

/-- The file that a path means, and its format. -/
def find (fs : Files) (here path : String) : Except SettingsError (String × SettingsFormat) :=
  if isFile fs path then
    match SettingsFormat.all.find? fun f => f.extension = extensionOf (nameOf path) with
    | some format => .ok (path, format)
    | none => .error (.unknownFormat (if isAbsolute path then path else here ++ "/" ++ path))
  else
    let named := if (nameOf path).isEmpty then none else
      (SettingsFormat.all.map fun f => (trimmed path ++ "." ++ f.extension, f)).find?
        fun c => isFile fs c.1
    match named with
    | some found => .ok found
    | none => .error (.notFound path)

end SettingsFile

/-! ## Layers -/

mutual

/-- The value of a TOML document as a setting. -/
def Toml.setting (origin : String) : Toml → Setting
  | .string s => .text (some origin) s
  | .integer i => .integer (some origin) i
  | .float x => .real (some origin) x
  | .boolean b => .boolean (some origin) b
  | .datetime s => .text (some origin) s
  | .array _ es => .list (some origin) (Toml.settings origin es)
  | .table _ es => .table (some origin) (Toml.settingEntries origin es)

/-- The values of an array as settings. -/
def Toml.settings (origin : String) : List Toml → List Setting
  | [] => []
  | v :: rest => v.setting origin :: Toml.settings origin rest

/-- The entries of a table as settings. -/
def Toml.settingEntries (origin : String) : List (String × Toml) → List (String × Setting)
  | [] => []
  | (key, v) :: rest => (key, v.setting origin) :: Toml.settingEntries origin rest

end

/-- A JSON number as a setting: an integer where it is written as one and fits into 64 bits. A
number too great for a floating point number is none. -/
def Json.settingNumber? (origin : String) (literal : List Char) : Option Setting :=
  match Decimal.readSigned? 64 literal with
  | some i =>
    if literal = ['-', '0'] then some (.real (some origin) ⟨true, 0⟩)
    else some (.integer (some origin) i)
  | none =>
    match Decimal.readChars? literal with
    | some x => if x.isInfinite then none else some (.real (some origin) x)
    | none => none

mutual

/-- The value of a JSON text as a setting. -/
def Json.setting? (origin : String) : Json → Option Setting
  | .null => some (.absent (some origin))
  | .bool b => some (.boolean (some origin) b)
  | .number literal => Json.settingNumber? origin literal
  | .string s => some (.text (some origin) s)
  | .array es => (Json.settings? origin es).map (.list (some origin))
  | .object ms => (Json.settingEntries? origin ms).map (.table (some origin))

/-- The elements of an array as settings. -/
def Json.settings? (origin : String) : List Json → Option (List Setting)
  | [] => some []
  | v :: rest => do return (← Json.setting? origin v) :: (← Json.settings? origin rest)

/-- The members of an object as settings. -/
def Json.settingEntries? (origin : String) : List (String × Json) → Option (List (String × Setting))
  | [] => some []
  | (key, v) :: rest => do
    return (key, ← Json.setting? origin v) :: (← Json.settingEntries? origin rest)

end

/-- The entries of a layer in the order of their keys; of two with one key the later counts. -/
def sortedEntries (entries : Setting.Entries) : Setting.Entries := KeyMap.ofList entries

/-- How deep a settings file in JSON may be nested. -/
def jsonDepthLimit : Nat := 127

/-- The layer that a file holds. -/
def SettingsFormat.layer? (format : SettingsFormat) (origin text : String) :
    Option Setting.Entries :=
  match format with
  | .toml => (Toml.readDocument? text).map (Toml.settingEntries origin)
  | .json =>
    match ((Json.read? text).filter (·.depth ≤ jsonDepthLimit)).bind (Json.setting? origin) with
    | some (.table _ entries) => some entries
    | _ => none

/-- The names of the variables that settings are taken from begin with this, in any letter case. -/
def variableStart : String := "dbmon__"

/-- The setting of a variable: each double underscore in its name is a step of the route. -/
def ofVariable (name value : String) : Option (String × Setting) :=
  (Text.after? variableStart.toList (Text.lowerChars name.toList)).map fun rest =>
    (Text.replace (String.ofList rest) "__" ".", .text (some "the environment") value)

/-- The layer that the environment holds. -/
def environmentLayer (environment : KeyMap String) : Setting.Entries :=
  sortedEntries (environment.filterMap fun e => ofVariable e.1 e.2)

/-- The settings of layers, the earliest first. -/
def Settings.ofLayers (layers : List Setting.Entries) : Except SettingsError Settings := do
  let tree := layers.foldl Setting.layer (.table none [])
  let settings ← (Setting.toSettings tree).mapError .read
  settings.check.mapError .invalid
  return settings

/-- Loads settings from the file that a path means and from the environment. `here` is the full
path of the current directory, which one message shows. -/
def Settings.load (fs : Files) (environment : KeyMap String) (here path : String) :
    Except SettingsError Settings := do
  let (path, format) ← SettingsFile.find fs here path
  let text ← (fs.readText path).mapError .file
  let origin := Text.join "/" (SettingsFile.parts path)
  match format.layer? origin text with
  | none => throw (.malformed origin)
  | some entries => Settings.ofLayers [entries, environmentLayer environment]

end Telemetry
