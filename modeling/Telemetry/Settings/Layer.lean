import Telemetry.Number.Binary64
import Telemetry.Text.Case

/-!
# Layers of settings

Settings come in layers, a file and then the environment, that are laid over one another in one
tree of values. A table is merged key by key into the table that is already there, anything else
takes the place of what was there. Keys ignore case: they are kept in small letters.

The key of an entry at the top of a layer can be a whole route into the tree, such as
`server.port` or `metrics.custom[0]`.
-/

namespace Telemetry

/-- A value of a layer, and where it was written. -/
inductive Setting where
  | absent (origin : Option String)
  | boolean (origin : Option String) (b : Bool)
  | integer (origin : Option String) (i : Int)
  | real (origin : Option String) (x : Binary64)
  | text (origin : Option String) (s : String)
  | list (origin : Option String) (elements : List Setting)
  | table (origin : Option String) (entries : List (String × Setting))
  deriving Repr

namespace Setting

/-- The entries of a table. -/
abbrev Entries := List (String × Setting)

/-- Where a value was written. -/
def origin : Setting → Option String
  | .absent o | .boolean o _ | .integer o _ | .real o _ | .text o _ | .list o _ | .table o _ => o

/-- The entries of a value; one that is no table has none. -/
def entries : Setting → Entries
  | .table _ es => es
  | _ => []

/-- The elements of a value; one that is no list has none. -/
def elements : Setting → List Setting
  | .list _ es => es
  | _ => []

/-- The value under a key. -/
def find? (entries : Entries) (key : String) : Option Setting :=
  (entries.find? (·.1 == key)).map (·.2)

/-- Puts a value under a key, in the place of an earlier one. -/
def set (entries : Entries) (key : String) (value : Setting) : Entries :=
  match entries with
  | [] => [(key, value)]
  | (k, v) :: rest => if k = key then (key, value) :: rest else (k, v) :: set rest key value

mutual

/-- Lays a value over what is under a key. -/
def lay (key : String) (present : Entries) : Setting → Entries
  | .table _ incoming =>
    let name := Text.lower key
    set present name (layAll ((find? present name).getD (.table none [])) incoming)
  | value => set present (Text.lower key) value

/-- Lays the entries of a table over a value, which becomes a table with the first of them. -/
def layAll (present : Setting) : List (String × Setting) → Setting
  | [] => present
  | (key, value) :: rest => layAll (.table none (lay key present.entries value)) rest

end

/-! ## Routes -/

/-- One step of a route. -/
inductive Step where
  | key (name : String)
  /-- A place in a list; a negative one counts from the end. -/
  | place (index : Int)
  deriving DecidableEq, Repr

/-- The place in a list of so many elements that an index means. -/
def placeIn (size : Nat) (index : Int) : Nat :=
  if index < 0 then size - index.natAbs else index.toNat

/-- Changes the element at a place; a list that is too short is filled up. -/
def changeAt (change : Setting → Setting) (index : Int) (elements : List Setting) :
    List Setting :=
  let n := placeIn elements.length index
  let filled := elements ++ List.replicate (n + 1 - elements.length) (.absent none)
  filled.modify n change

/-- Changes the value at the end of a route. What is on the way and cannot be entered gives way to
a table or a list that can. -/
def changeOn (change : Setting → Setting) : List Step → Setting → Setting
  | [], value => change value
  | .key name :: route, value =>
    let name := Text.lower name
    let inner := (find? value.entries name).getD (.absent none)
    .table value.origin (set value.entries name (changeOn change route inner))
  | .place index :: route, value =>
    .list value.origin (changeAt (changeOn change route) index value.elements)

/-- Lays a value at the end of a route. -/
def layOn (route : List Step) (value root : Setting) : Setting :=
  match route.getLast? with
  | none => root
  | some (.key name) =>
    changeOn (fun parent => .table parent.origin (lay name parent.entries value)) route.dropLast
      root
  | some (.place _) => changeOn (fun _ => value) route root

/-- A character of a name in a route. -/
def isNameChar (c : Char) : Bool := c.isAlphanum || c = '_' || c = '-' || c = ' '

/-- Reads an index with its closing bracket; spaces may stand around it. -/
def readIndex? (cs : List Char) : Option (Int × List Char) :=
  let isGap (c : Char) : Bool := c = ' ' || c = '\t'
  let (negative, cs) := match cs.dropWhile isGap with
    | '-' :: rest => (true, rest)
    | rest => (false, rest)
  let digits := cs.takeWhile Char.isDigit
  match (cs.drop digits.length).dropWhile isGap with
  | ']' :: rest =>
    let n : Int := digits.foldl (fun n c => n * 10 + (c.toNat - 48)) 0
    if digits.isEmpty then none else some (if negative then -n else n, rest)
  | _ => none

/-- Reads the steps behind the first name. -/
def readSteps? : Nat → List Char → Option (List Step)
  | _, [] => some []
  | 0, _ => none
  | fuel + 1, '.' :: cs =>
    let name := cs.takeWhile isNameChar
    if name.isEmpty then none
    else (readSteps? fuel (cs.drop name.length)).map (.key (String.ofList name) :: ·)
  | fuel + 1, '[' :: cs =>
    match readIndex? cs with
    | some (i, rest) => (readSteps? fuel rest).map (.place i :: ·)
    | none => none
  | _ + 1, _ => none

/-- The route that a key means. A key that spells no route is a name as a whole. -/
def routeOf (key : String) : List Step :=
  let cs := key.toList
  let name := cs.takeWhile isNameChar
  if name.isEmpty then [.key key]
  else match readSteps? cs.length (cs.drop name.length) with
    | some steps => .key (String.ofList name) :: steps
    | none => [.key key]

/-- Lays the entries of a layer over a tree. -/
def layer (root : Setting) (layer : Entries) : Setting :=
  layer.foldl (fun root e => layOn (routeOf e.1) e.2 root) root

end Setting

end Telemetry
