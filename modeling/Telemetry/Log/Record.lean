import Telemetry.Format.Json
import Telemetry.Row
import Telemetry.Time.Timestamp

/-!
# Log records

An event of a server's log, its line in the local log file, and the choice of new events from the
rows of a query.

* `LogRecord.line` writes a record as one line, `LogRecord.ofLine?` reads one.
* `LogRecord.newer` keeps the rows that are newer than a moment, oldest first.
-/

namespace Telemetry

/-- One event. -/
structure LogRecord where
  timestamp : String
  moduleId : String
  ecid : String
  message : String
  deriving DecidableEq, Repr

namespace LogRecord

/-- The timestamp that stands for "from the beginning". -/
def sentinelText : String := "1900-01-01T01:01:01.001Z"

/-- The moment that stands for "from the beginning". -/
def sentinel : Timestamp := ⟨-2208985139, 1000000⟩

/-! ## Lines -/

/-- One member of a line. -/
def member (key : String) (value : String) : List Char :=
  Json.quoted key.toList ++ ':' :: Json.quoted value.toList

/-- The line of a record, without its terminator. -/
def line (r : LogRecord) : List Char :=
  '\x7b' :: member "timestamp" r.timestamp ++ ',' :: member "moduleId" r.moduleId ++
    ',' :: member "ecid" r.ecid ++ ',' :: member "message" r.message ++ ['\x7d']

/-- The fields of a record that were read so far. -/
structure Partial where
  timestamp : Option String := none
  moduleId : Option String := none
  ecid : Option String := none
  message : Option String := none

/-- The record, once every field was read. -/
def Partial.complete? (p : Partial) : Option LogRecord := do
  return ⟨← p.timestamp, ← p.moduleId, ← p.ecid, ← p.message⟩

/-- Reads a text value that is not there yet. -/
def readField? (present : Option String) (cs : List Char) : Option (Option String × List Char) :=
  match present with
  | some _ => none
  | none => (Json.readText? true (Json.skipSpace cs)).map fun (s, rest) =>
      (some (String.ofList s), rest)

/-- Reads the value under a key. The value of an unknown key is passed over. -/
def readMember? (fuel : Nat) (p : Partial) (key : String) (cs : List Char) :
    Option (Partial × List Char) :=
  if key = "timestamp" then
    (readField? p.timestamp cs).map fun (s, rest) => ({ p with timestamp := s }, rest)
  else if key = "moduleId" then
    (readField? p.moduleId cs).map fun (s, rest) => ({ p with moduleId := s }, rest)
  else if key = "ecid" then
    (readField? p.ecid cs).map fun (s, rest) => ({ p with ecid := s }, rest)
  else if key = "message" then
    (readField? p.message cs).map fun (s, rest) => ({ p with message := s }, rest)
  else (Json.readValue? false fuel cs).map fun (_, rest) => (p, rest)

/-- Reads the members of a line, up to and with its closing brace. -/
def readMembers? : Nat → Partial → List Char → Option (Partial × List Char)
  | 0, _, _ => none
  | fuel + 1, p, cs =>
    match Json.readText? true (Json.skipSpace cs) with
    | none => none
    | some (key, rest) =>
      match Json.skipSpace rest with
      | ':' :: rest =>
        match readMember? fuel p (String.ofList key) rest with
        | none => none
        | some (p, rest) =>
          match Json.skipSpace rest with
          | ',' :: rest => readMembers? fuel p rest
          | '\x7d' :: rest => some (p, rest)
          | _ => none
      | _ => none

/-- Reads a text and the character behind it. -/
def readElement? (closing : Char) (cs : List Char) : Option (String × List Char) :=
  match Json.readText? true (Json.skipSpace cs) with
  | none => none
  | some (s, rest) =>
    match Json.skipSpace rest with
    | c :: rest => if c = closing then some (String.ofList s, rest) else none
    | [] => none

/-- Reads the four fields of a record as the elements of an array. -/
def readElements? (cs : List Char) : Option (LogRecord × List Char) := do
  let (timestamp, cs) ← readElement? ',' cs
  let (moduleId, cs) ← readElement? ',' cs
  let (ecid, cs) ← readElement? ',' cs
  let (message, cs) ← readElement? ']' cs
  return (⟨timestamp, moduleId, ecid, message⟩, cs)

/-- Reads a record: an object with each of the four fields once, or an array of them. -/
def readRecord? (cs : List Char) : Option (LogRecord × List Char) :=
  match Json.skipSpace cs with
  | '\x7b' :: rest =>
    match readMembers? (Json.enoughFuel rest) {} rest with
    | some (p, rest) => p.complete?.map fun record => (record, rest)
    | none => none
  | '[' :: rest => readElements? rest
  | _ => none

/-- Reads a line that is one record, with blanks around it at most. -/
def ofLine? (cs : List Char) : Option LogRecord :=
  match readRecord? cs with
  | some (record, rest) => if (Json.skipSpace rest).isEmpty then some record else none
  | none => none

/-! ## New events -/

/-- A text without one line feed at its end. -/
def dropLineFeed (s : String) : String :=
  match s.toList.reverse with
  | '\n' :: rest => String.ofList rest.reverse
  | _ => s

/-- The moment and the record of a row; none when its timestamp cannot be read. -/
def ofRow? (row : Row) : Option (Timestamp × LogRecord) :=
  (Timestamp.read? (row.text "timestamp")).map fun moment =>
    (moment, ⟨moment.text, row.text "module_id", row.text "ecid",
      dropLineFeed (row.text "message")⟩)

/-- The records of the rows that are newer than a moment by at least a millisecond, oldest first
and otherwise in row order. -/
def newer (rows : List Row) (since : Timestamp) : List LogRecord :=
  (((rows.filterMap ofRow?).filter fun e => since.millis < e.1.millis).mergeSort
    fun a b => a.1.le b.1).map (·.2)

end LogRecord

end Telemetry
