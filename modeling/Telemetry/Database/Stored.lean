import Telemetry.Row

/-!
# Stored values

The values of a database whose cells each have a type of their own, and the text that a row shows
for them. A value of raw bytes has no text and is shown as the empty one.
-/

namespace Telemetry

/-- A value in the storage of a database. -/
inductive StoredValue where
  | integer (i : Int)
  | real (x : Binary64)
  | text (s : String)
  | bytes (content : List UInt8)
  | null
  deriving DecidableEq, Repr

namespace StoredValue

/-- What a row shows for a value. -/
def cell : StoredValue → Cell
  | .integer i => some (Text.ofInt i)
  | .real x => some x.text
  | .text s => some s
  | .bytes _ => some ""
  | .null => none

/-- The row of stored values under the names of their columns. -/
def row (columns : List String) (values : List StoredValue) : Row :=
  .ofList (columns.zip (values.map cell))

end StoredValue

/-- The columns of a row in order, each with the value that its name stands for. -/
def Row.view (r : Row) : List (String × Cell) :=
  r.columns.map fun c => (c.1, (r.get? c.1).getD none)

end Telemetry
