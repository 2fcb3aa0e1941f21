import Telemetry.Number.Decimal
import Telemetry.Text.Blank
import Telemetry.Text.Case

/-!
# Result rows

A row of a query result: columns in order, each with a text or the database's NULL. Column names
ignore case; of two columns with one name the first is meant.
-/

namespace Telemetry

/-- A value as a database returns it; `none` is its NULL. -/
abbrev Cell := Option String

/-- A row: lower-cased column names with their values, in order. -/
structure Row where
  columns : List (String × Cell)
  deriving DecidableEq, Repr

/-- What a column holds when a number is asked for. -/
inductive Numeric where
  | value (x : Binary64)
  | absent
  | invalid (text : String)
  deriving DecidableEq, Repr

namespace Row

/-- The row of a list of columns. -/
def ofList (columns : List (String × Cell)) : Row :=
  ⟨columns.map fun c => (Text.lower c.1, c.2)⟩

/-- The value of the first column with this name. -/
def get? (r : Row) (name : String) : Option Cell :=
  (r.columns.find? (·.1 == Text.lower name)).map (·.2)

/-- The text of a column; a missing column and NULL have the empty text. -/
def text (r : Row) (name : String) : String := ((r.get? name).getD none).getD ""

/-- The number in a column; NULL counts as zero. -/
def numeric (r : Row) (name : String) : Numeric :=
  match r.get? name with
  | none => .absent
  | some none => .value .zero
  | some (some s) =>
    match Decimal.readChars? (Text.trimChars s.toList) with
    | some x => .value x
    | none => .invalid s

/-- The unsigned 64-bit count in a column; NULL counts as zero. -/
def count? (r : Row) (name : String) : Option Nat :=
  match r.get? name with
  | none => none
  | some none => some 0
  | some (some s) => Decimal.readUnsigned? 64 (Text.trimChars s.toList)

end Row

end Telemetry
