import Telemetry.Definition.Set
import Telemetry.Definition.Source
import Telemetry.Files
import Telemetry.Keyed

/-!
# The definition store

The files that definitions come from, with the content in which each was last seen. A reload is
asked for when a readable file differs from what was last seen of it.

* `DefinitionStore.check` records what changed and says whether anything did.
* `DefinitionStore.load` reads every file; one that cannot be used costs only itself.
* `DefinitionStore.reload` loads when forced to or when something changed.

The reader of TOML words its faults itself. What it says is a parameter of everything that reads
definitions (`TomlFaults`).
-/

namespace Telemetry

/-- What the reader of TOML says about a text that it refuses, line by line, behind the words that
all of its messages begin with: where the fault is, and which. -/
class TomlFaults where
  details : String → List String

/-- The details are left out where nothing hangs on them: they change no definition, and not how
many problems there are. -/
instance (priority := low) : TomlFaults where
  details _ := []

/-- The sources of definitions and what was last seen in them. -/
structure DefinitionStore where
  sources : List String
  /-- The last seen content of a source. -/
  seen : List (String × List UInt8)
  deriving DecidableEq, Repr

namespace DefinitionStore

/-- The store of some sources, none of which was read yet. -/
def ofSources (sources : List String) : DefinitionStore := ⟨sources, []⟩

/-- What was last seen in a source. -/
def lastSeen? (store : DefinitionStore) (path : String) : Option (List UInt8) :=
  Keyed.get? store.seen path

/-- Keeps what is seen in a source now. -/
def remember (store : DefinitionStore) (path : String) (content : List UInt8) :
    DefinitionStore :=
  { store with seen := Keyed.put store.seen path content }

@[simp]
theorem sources_remember (store : DefinitionStore) (path : String) (content : List UInt8) :
    (store.remember path content).sources = store.sources := rfl

theorem lastSeen?_remember (store : DefinitionStore) (path other : String)
    (content : List UInt8) :
    (store.remember path content).lastSeen? other =
      if path = other then some content else store.lastSeen? other :=
  Keyed.get?_put store.seen path other content

/-- Looks at one source: remembers a content that is new. A source that cannot be read counts as
unchanged. -/
def checkSource (fs : Files) (state : DefinitionStore × Bool) (path : String) :
    DefinitionStore × Bool :=
  match fs.read path with
  | .ok content =>
    if state.1.lastSeen? path = some content then state
    else (state.1.remember path content, true)
  | .error _ => state

/-- Looks at every source, and says whether any of them changed. -/
def check (store : DefinitionStore) (fs : Files) : DefinitionStore × Bool :=
  store.sources.foldl (checkSource fs) (store, false)

/-- The message about a text that is refused. Each line of the details is closed. -/
def tomlFault [TomlFaults] (text : String) : String :=
  (TomlFaults.details text).foldl (fun message line => message ++ line ++ "\n") "TOML parse error"

variable [TomlFaults]

/-- The definitions that a content holds, or why it holds none. -/
def parse (content : List UInt8) : Except String (List RawDefinition) :=
  match Utf8.decode content with
  | .error fault => .error fault.message
  | .ok text =>
    match DefinitionFile.read? text with
    | none => .error (tomlFault text)
    | some raws => .ok raws

/-- Reads the definitions of a file, or says why that fails. -/
def readSource (fs : Files) (path : String) : Except String (List RawDefinition × List UInt8) :=
  match fs.read path with
  | .error e => .error e.message
  | .ok content => (parse content).map fun raws => (raws, content)

/-- Adds the definitions of one source, or the problem with it. -/
def loadSource (fs : Files) (state : DefinitionStore × DefinitionSet) (path : String) :
    DefinitionStore × DefinitionSet :=
  match readSource fs path with
  | .ok (raws, content) => (state.1.remember path content, state.2.addAll raws)
  | .error problem => (state.1, state.2.addProblem (path ++ ": " ++ problem))

/-- Reads every source. -/
def load (store : DefinitionStore) (fs : Files) : DefinitionStore × DefinitionSet :=
  store.sources.foldl (loadSource fs) (store, .empty)

/-- Reads every source if that is forced or anything changed. -/
def reload (store : DefinitionStore) (fs : Files) (force : Bool) :
    DefinitionStore × Option DefinitionSet :=
  let (store, changed) := store.check fs
  if changed || force then
    let (store, set) := store.load fs
    (store, some set)
  else (store, none)

end DefinitionStore

end Telemetry
