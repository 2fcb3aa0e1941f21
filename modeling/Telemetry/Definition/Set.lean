import Telemetry.Definition.Check

/-!
# Sets of definitions

The definitions of all sources together. A malformed definition costs only itself: it leaves a
problem behind, and the others are kept. Each kept definition gets an identity of its own, its
context and columns, with a number behind it where that is already taken.
-/

namespace Telemetry

/-- The definitions that were accepted, and a message for each thing that was not. -/
structure DefinitionSet where
  definitions : List Definition
  problems : List String
  deriving DecidableEq, Repr

namespace DefinitionSet

/-- Nothing accepted and nothing refused. -/
def empty : DefinitionSet := ⟨[], []⟩

/-- The context of a definition with its columns in brackets. -/
def baseId (d : Definition) : String :=
  d.context ++ "[" ++ Text.join "," (d.columns.map MetricColumn.name) ++ "]"

/-- The base with a number behind it. -/
def numberedId (base : String) (n : Nat) : String := base ++ "#" ++ Text.ofNat n

/-- The first numbered identity from `n` on that is not taken. Among `fuel + 1` different
identities one is free when at most `fuel` are taken. -/
def freeNumberedId (base : String) (taken : List String) (n : Nat) : Nat → String
  | 0 => numberedId base n
  | fuel + 1 =>
    if taken.contains (numberedId base n) then freeNumberedId base taken (n + 1) fuel
    else numberedId base n

/-- The base itself if it is free, else the first free numbered identity, counted from two. -/
def freeId (base : String) (taken : List String) : String :=
  if taken.contains base then freeNumberedId base taken 2 taken.length else base

/-- Adds a definition as written, or the problem with it. -/
def add (set : DefinitionSet) (raw : RawDefinition) : DefinitionSet :=
  match Definition.ofRaw raw with
  | .ok d =>
    let id := freeId (baseId d) (set.definitions.map Definition.id)
    { set with definitions := set.definitions ++ [{ d with id := id }] }
  | .error e => { set with problems := set.problems ++ [e.message] }

/-- Adds definitions as written, in order. -/
def addAll (set : DefinitionSet) (raws : List RawDefinition) : DefinitionSet :=
  raws.foldl add set

/-- The set of the definitions as written. -/
def ofRaw (raws : List RawDefinition) : DefinitionSet := empty.addAll raws

/-- Adds a problem with a whole source. -/
def addProblem (set : DefinitionSet) (problem : String) : DefinitionSet :=
  { set with problems := set.problems ++ [problem] }

end DefinitionSet

end Telemetry
