import Telemetry.Keyed
import Telemetry.Text.Search
import Telemetry.Text.Utf8

/-!
# Files

The file system as the exporter sees it: files with their bytes and directories, below one current
directory. A path is walked component by component, and where that fails the cause is the one that
the system would name.
-/

namespace Telemetry

/-- Why a file operation fails. -/
inductive FileError where
  | notFound
  | exists
  | notDirectory
  | isDirectory
  | nameTooLong
  /-- The path holds a zero character. -/
  | zeroInName
  /-- The content was asked for as a text and is none. -/
  | notText
  deriving DecidableEq, Repr

/-- The text of an error. -/
def FileError.message : FileError → String
  | .notFound => "No such file or directory (os error 2)"
  | .exists => "File exists (os error 17)"
  | .notDirectory => "Not a directory (os error 20)"
  | .isDirectory => "Is a directory (os error 21)"
  | .nameTooLong => "File name too long (os error 36)"
  | .zeroInName => "file name contained an unexpected NUL byte"
  | .notText => "stream did not contain valid UTF-8"

/-- The place of a file: the names on the way to it from the current directory. -/
abbrev Place := List String

/-- What a place holds. -/
inductive Entry where
  | file (content : List UInt8)
  | directory
  deriving DecidableEq, Repr

/-- The file system: what each place holds. -/
structure Files where
  entries : List (Place × Entry)
  deriving DecidableEq, Repr

namespace Files

/-- No files at all. -/
def empty : Files := ⟨[]⟩

/-- What a place holds. The current directory, the directories above it and the root are always
there. -/
def at? (fs : Files) (place : Place) : Option Entry :=
  if place.all fun name => name = ".." || name = "/" then some .directory
  else Keyed.get? fs.entries place

/-- Puts an entry at a place. -/
def put (fs : Files) (place : Place) (entry : Entry) : Files :=
  ⟨Keyed.put fs.entries place entry⟩

/-- The components of a path. -/
def components (path : String) : List String :=
  (Text.splitOnChar (· = '/') path.toList).map String.ofList

/-- The place above another one. -/
def above (place : Place) : Place :=
  match place.getLast? with
  | none => [".."]
  | some ".." => place ++ [".."]
  | some "/" => place
  | some _ => place.dropLast

/-- A component that is the name of something: neither empty nor the one for the same place. -/
def leadsOn (name : String) : Bool := name ≠ "" && name ≠ "."

/-- The place that a name leads to from a place, when nothing on the way is looked at. -/
def follow (place : Place) (name : String) : Place :=
  if name = ".." then above place else place ++ [name]

/-- Walks the components of a path from a place; the last one need not exist. -/
def walk (fs : Files) (place : Place) : List String → Except FileError Place
  | [] => .ok place
  | name :: rest =>
    match fs.at? place with
    | none => .error .notFound
    | some (.file _) => .error .notDirectory
    | some .directory =>
      if leadsOn name then
        if name ≠ ".." && name.utf8ByteSize > 255 then .error .nameTooLong
        else walk fs (follow place name) rest
      else walk fs place rest

/-- Where a path begins, and its components from there. -/
def origin (path : String) : Place × List String :=
  match components path with
  | "" :: rest => (["/"], rest)
  | names => ([], names)

/-- The place that a path leads to. -/
def place (fs : Files) (path : String) : Except FileError Place :=
  if path.isEmpty then .error .notFound
  else if path.toList.contains (Char.ofNat 0) then .error .zeroInName
  else if path.utf8ByteSize ≥ 4096 then .error .nameTooLong
  else fs.walk (origin path).1 (origin path).2

/-- The path leads to something. -/
def holds (fs : Files) (path : String) : Bool :=
  match fs.place path with
  | .ok place => (fs.at? place).isSome
  | .error _ => false

/-- The content of a file. -/
def read (fs : Files) (path : String) : Except FileError (List UInt8) := do
  match fs.at? (← fs.place path) with
  | none => throw .notFound
  | some .directory => throw .isDirectory
  | some (.file content) => return content

/-- The content of a file that is a text. -/
def readText (fs : Files) (path : String) : Except FileError String := do
  match Utf8.decode (← fs.read path) with
  | .ok text => return text
  | .error _ => throw .notText

/-- Makes a directory at a place where nothing is. `isLast` says whether it is the last one of
several that are made one inside the other. -/
def makeDirectory (fs : Files) (place : Place) (isLast : Bool) : Except FileError Files :=
  match fs.at? place with
  | some .directory => .ok fs
  | some (.file _) => .error (if isLast then .exists else .notDirectory)
  | none =>
    if (place.getLast?.getD "").utf8ByteSize > 255 then .error .nameTooLong
    else .ok (fs.put place .directory)

/-- Makes a directory wherever one is missing on the way along the names. Those that were made
before a failure stay. -/
def makeDirectories (fs : Files) (place : Place) : List String → Except FileError Unit × Files
  | [] => (.ok (), fs)
  | name :: rest =>
    match fs.makeDirectory (follow place name) rest.isEmpty with
    | .ok fs => makeDirectories fs (follow place name) rest
    | .error e => (.error e, fs)

/-- The names on the way to what a path leads to. -/
def names (path : String) : List String := (origin path).2.filter leadsOn

/-- The place that a path names when nothing on the way to it is looked at. -/
def namedPlace (path : String) : Place := (names path).foldl follow (origin path).1

/-- Makes the directories above what a path leads to. -/
def makeParents (fs : Files) (path : String) : Except FileError Unit × Files :=
  let parents := (names path).dropLast
  if parents.any fun name => name.toList.contains (Char.ofNat 0) then (.error .zeroInName, fs)
  else fs.makeDirectories (origin path).1 parents

/-- Makes an empty file where a path leads. A path with a slash at its end can only lead to a
directory. -/
def touch (fs : Files) (path : String) : Except FileError Unit × Files :=
  match path.toList.reverse with
  | '/' :: rest =>
    match fs.place (String.ofList (rest.dropWhile (· = '/')).reverse) with
    | .error e => (.error e, fs)
    | .ok _ => (.error .isDirectory, fs)
  | _ =>
    match fs.place path with
    | .error e => (.error e, fs)
    | .ok place =>
      match fs.at? place with
      | none => (.ok (), fs.put place (.file []))
      | some (.file _) => (.ok (), fs)
      | some .directory => (.error .isDirectory, fs)

/-- Makes an empty file if the path leads to nothing, and the directories above it. Directories
that were made stay even if the file cannot be made. -/
def ensure (fs : Files) (path : String) : Except FileError Unit × Files :=
  if fs.holds path then (.ok (), fs)
  else match fs.makeParents path with
    | (.ok _, fs) => fs.touch path
    | (.error e, fs) => (.error e, fs)

/-- Adds bytes to the end of an existing file. -/
def append (fs : Files) (path : String) (bytes : List UInt8) : Except FileError Files := do
  let place ← fs.place path
  match fs.at? place with
  | none => throw .notFound
  | some .directory => throw .isDirectory
  | some (.file content) => return fs.put place (.file (content ++ bytes))

/-- Sets the content of a file, which is made along with its directories if need be. -/
def write (fs : Files) (path : String) (content : List UInt8) : Files :=
  (fs.makeParents path).2.put (namedPlace path) (.file content)

/-- Makes a directory along with those above it. -/
def addDirectory (fs : Files) (path : String) : Files :=
  (fs.makeDirectories (origin path).1 (names path)).2

/-- Removes a file. -/
def remove (fs : Files) (path : String) : Files :=
  ⟨fs.entries.filter (·.1 ≠ namedPlace path)⟩

end Files

end Telemetry
