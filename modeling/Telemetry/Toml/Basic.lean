import Telemetry.Number.Binary64

/-!
# TOML documents

The values of a TOML document, and how keys put them into its tables. A table remembers how it came
to be, because that decides who may still add to it:

* a table written between braces is complete,
* a table with a header of its own may not get a second one,
* a table that a longer header implied may still get a header,
* a table that a dotted key made may get more dotted keys, and no header.
-/

namespace Telemetry

/-- How a table came to be. -/
inductive TableOrigin where
  | braces
  | header
  | implied
  | dotted
  deriving DecidableEq, Repr

/-- A value of a TOML document. A date or time is kept in its normal spelling. -/
inductive Toml where
  | string (s : String)
  | integer (i : Int)
  | float (x : Binary64)
  | boolean (b : Bool)
  | datetime (spelling : String)
  /-- An array; a `growing` one is made of headers in double brackets. -/
  | array (growing : Bool) (elements : List Toml)
  | table (origin : TableOrigin) (entries : List (String × Toml))
  deriving Repr

namespace Toml

/-- The entries of a table, in the order in which they were written. -/
abbrev Entries := List (String × Toml)

/-- The value under a key. -/
def find? (entries : Entries) (key : String) : Option Toml :=
  (entries.find? (·.1 == key)).map (·.2)

/-- Replaces the value under a key, or adds the key behind the others. -/
def set (entries : Entries) (key : String) (value : Toml) : Entries :=
  match entries with
  | [] => [(key, value)]
  | (k, v) :: rest => if k = key then (key, value) :: rest else (k, v) :: set rest key value

/-- A way into the tables: by headers, or by a dotted key. -/
inductive Route where
  | header
  | dotted
  deriving DecidableEq, Repr

/-- The origin of the tables that a route makes on its way. -/
def Route.makes : Route → TableOrigin
  | .header => .implied
  | .dotted => .dotted

/-- Whether a route may pass through a table. -/
def Route.enters : Route → TableOrigin → Bool
  | _, .braces => false
  | .header, _ => true
  | .dotted, origin => origin = .implied || origin = .dotted

/-- Changes the entries of the table at the end of a path. Tables that are missing on the way are
made; an array of tables is entered at its last element. The change also learns the origin of the
table, and fails by giving nothing. -/
def update (route : Route) (change : TableOrigin → Entries → Option Entries) :
    List String → TableOrigin → Entries → Option Entries
  | [], origin, entries => change origin entries
  | key :: path, _, entries =>
    match find? entries key with
    | none =>
      (update route change path route.makes []).map fun inner =>
        set entries key (.table route.makes inner)
    | some (.table origin inner) =>
      if route.enters origin then
        (update route change path origin inner).map fun inner =>
          set entries key (.table origin inner)
      else none
    | some (.array true elements) =>
      match elements.getLast? with
      | some (.table origin inner) =>
        (update route change path origin inner).map fun inner =>
          set entries key (.array true (elements.dropLast ++ [.table origin inner]))
      | _ => none
    | some _ => none

/-- Adds a key that is not there yet. A dotted key ends in a table made by dotted keys. -/
def addKey (path : List String) (key : String) (value : Toml) (origin : TableOrigin)
    (entries : Entries) : Option Entries :=
  if (find? entries key).isSome || (!path.isEmpty && origin ≠ .dotted) then none
  else some (entries ++ [(key, value)])

/-- Puts a value under a dotted key of a table. -/
def putDotted (path : List String) (key : String) (value : Toml) (origin : TableOrigin)
    (entries : Entries) : Option Entries :=
  update .dotted (addKey path key value) path origin entries

/-- Opens the table of a header in single brackets. -/
def openTable (key : String) (_ : TableOrigin) (entries : Entries) : Option Entries :=
  match find? entries key with
  | none => some (set entries key (.table .header []))
  | some (.table .implied inner) => some (set entries key (.table .header inner))
  | some _ => none

/-- Opens the next table of a header in double brackets. -/
def openElement (key : String) (_ : TableOrigin) (entries : Entries) : Option Entries :=
  match find? entries key with
  | none => some (set entries key (.array true [.table .header []]))
  | some (.array true elements) =>
    some (set entries key (.array true (elements ++ [.table .header []])))
  | some _ => none

end Toml

end Telemetry
