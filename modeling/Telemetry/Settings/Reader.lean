import Telemetry.Number.Decimal
import Telemetry.Settings.Basic
import Telemetry.Settings.Layer

/-!
# Reading settings

From the tree of values to the settings. Values are taken as generously as an environment of plain
texts needs: a number may be written as a text or a truth value, a truth value as a number or a
word, a text as any single value. Unknown keys are passed over. A record may also be given as the
list of its fields.
-/

namespace Telemetry

/-- What a setting is expected to be. -/
inductive Expected where
  | flag
  | text
  | integer
  /-- An integer that is not negative. -/
  | unsigned
  | word16
  | word32
  | list
  | map
  /-- A record with so many fields. -/
  | record (name : String) (fields : Nat)
  deriving DecidableEq, Repr

/-- What a message says of an expectation. -/
def Expected.wording : Expected → String
  | .flag => "a boolean"
  | .text => "a string"
  | .integer => "an integer"
  | .unsigned => "an unsigned 64 bit or less integer"
  | .word16 => "an unsigned 16 bit integer"
  | .word32 => "an unsigned 32 bit integer"
  | .list => "a sequence"
  | .map => "a map"
  | .record name _ => "struct " ++ name

/-- Why the tree of values does not make settings. -/
inductive ReadError where
  /-- A single value of the wrong type; the key is where it stands. -/
  | mismatch (key : Option String) (found : String) (expected : Expected)
      (origin : Option String)
  /-- A single value where a record, a list or a map is expected, or the other way around. -/
  | shape (found : String) (expected : Expected)
  | missing (field : String)
  /-- A record as a list of too few fields. -/
  | tooShort (length : Nat) (expected : Expected)
  deriving DecidableEq, Repr

namespace ReadError

/-- What was found, as far as a message names it before it names what was expected. -/
def head : ReadError → String
  | .mismatch _ found _ _ => "invalid type: " ++ found
  | .shape found _ => "invalid type: " ++ found
  | .missing field => "missing field `" ++ field ++ "`"
  | .tooShort length _ => "invalid length " ++ Text.ofNat length

/-- The text of an error. -/
def message (e : ReadError) : String :=
  match e with
  | .mismatch key _ expected origin =>
    e.head ++ ", expected " ++ expected.wording ++
      (match key with | some key => " for key `" ++ key ++ "`" | none => "") ++
      (match origin with | some origin => " in " ++ origin | none => "")
  | .shape _ expected => e.head ++ ", expected " ++ expected.wording
  | .missing _ => e.head
  | .tooShort _ (.record name fields) =>
    e.head ++ ", expected struct " ++ name ++ " with " ++ Text.ofNat fields ++
      (if fields = 1 then " element" else " elements")
  | .tooShort _ expected => e.head ++ ", expected " ++ expected.wording

/-- The error of a value that stands under a key of a table. -/
def under (name : String) : ReadError → ReadError
  | .mismatch key found expected origin =>
    let key := match key with
      | none => name
      | some key => if key.toList.head? = some '[' then name ++ key else name ++ "." ++ key
    .mismatch (some key) found expected origin
  | e => e

/-- The error of a value that stands at a place of a list. -/
def atPlace (index : Nat) : ReadError → ReadError
  | .mismatch key found expected origin =>
    .mismatch (some ("[" ++ Text.ofNat index ++ "]" ++ key.getD "")) found expected origin
  | e => e

end ReadError

namespace Setting

/-! ## Single values -/

/-- What a message says of a value that is not of the expected type. -/
def found : Setting → String
  | .absent _ => "unit value"
  | .boolean _ b => if b then "boolean `true`" else "boolean `false`"
  | .integer _ i => "64-bit integer `" ++ Text.ofInt i ++ "`"
  | .real _ x => "floating point `" ++ x.text ++ "`"
  | .text _ s => "string " ++ Text.quote s
  | .list _ _ => "sequence"
  | .table _ _ => "map"

/-- What a message says of a value that is not of the expected shape. -/
def foundShape : Setting → String
  | .integer _ i => "integer `" ++ Text.ofInt i ++ "`"
  | .real _ x =>
    let text := x.text
    let point := if x.isNaN || x.isInfinite || text.toList.contains '.' then "" else ".0"
    "floating point `" ++ text ++ point ++ "`"
  | v => v.found

/-- The error of a single value. -/
def mismatch {α : Type} (v : Setting) (expected : Expected) : Except ReadError α :=
  .error (.mismatch none v.found expected v.origin)

/-- The words for a truth value. -/
def flagWord? (word : String) : Option Bool :=
  if word = "true" || word = "on" || word = "yes" then some true
  else if word = "false" || word = "off" || word = "no" then some false
  else none

/-- A truth value: a word or a digit for one, or a number, of which only zero is false. -/
def toFlag (v : Setting) : Except ReadError Bool :=
  match v with
  | .boolean _ b => .ok b
  | .integer _ i => .ok (i ≠ 0)
  | .real _ x => .ok !x.isZero
  | .text o s =>
    let word := Text.lower s
    if word = "1" then .ok true
    else if word = "0" then .ok false
    else match flagWord? word with
      | some b => .ok b
      | none => mismatch (.text o word) .flag
  | v => mismatch v .flag

/-- A text; every single value has one. -/
def toText (v : Setting) : Except ReadError String :=
  match v with
  | .text _ s => .ok s
  | .boolean _ b => .ok (if b then "true" else "false")
  | .integer _ i => .ok (Text.ofInt i)
  | .real _ x => .ok x.text
  | v => mismatch v .text

/-- The greatest 64-bit count. -/
def maxCount : Nat := Nat.pow 2 64 - 1

/-- A 64-bit count: a number, a text of digits, or a truth value or a word for one. -/
def toCount (v : Setting) : Except ReadError Nat :=
  match v with
  | .integer _ i => if i < 0 then mismatch v .unsigned else .ok i.toNat
  | .real _ x => .ok (x.roundWithin 0 maxCount).toNat
  | .boolean _ b => .ok (if b then 1 else 0)
  | .text _ s =>
    match flagWord? (Text.lower s) with
    | some b => .ok (if b then 1 else 0)
    | none =>
      match Decimal.readUnsigned? 64 s.toList with
      | some n => .ok n
      | none => mismatch v .integer
  | v => mismatch v .integer

/-- A count below a power of two. -/
def toWord (bits : Nat) (expected : Expected) (v : Setting) : Except ReadError Nat :=
  match v.toCount with
  | .ok n =>
    if n < Nat.pow 2 bits then .ok n
    else .error (.mismatch none ("64-bit unsigned integer `" ++ Text.ofNat n ++ "`") expected
      v.origin)
  | .error e => .error e

/-- A value that may be absent. -/
def toOption {α : Type} (read : Setting → Except ReadError α) (v : Setting) :
    Except ReadError (Option α) :=
  match v with
  | .absent _ => .ok none
  | v => (read v).map some

/-! ## Lists, maps and records -/

/-- The elements of a list, from a place on. -/
def toListFrom {α : Type} (read : Setting → Except ReadError α) (place : Nat) :
    List Setting → Except ReadError (List α)
  | [] => .ok []
  | v :: rest => do
    let first ← (read v).mapError (.atPlace place)
    let more ← toListFrom read (place + 1) rest
    return first :: more

/-- A list. -/
def toList {α : Type} (read : Setting → Except ReadError α) (v : Setting) :
    Except ReadError (List α) :=
  match v with
  | .list _ elements => toListFrom read 0 elements
  | v => .error (.shape v.foundShape .list)

/-- The values of a table. -/
def toEntries {α : Type} (read : Setting → Except ReadError α) :
    Entries → Except ReadError (List (String × α))
  | [] => .ok []
  | (key, v) :: rest => do
    let first ← (read v).mapError (.under key)
    let more ← toEntries read rest
    return (key, first) :: more

/-- A map. -/
def toMap {α : Type} (read : Setting → Except ReadError α) (v : Setting) :
    Except ReadError (KeyMap α) :=
  match v with
  | .table _ entries => (toEntries read entries).map KeyMap.ofList
  | v => .error (.shape v.foundShape .map)

/-- A record: the fields of a table, or of a list in the order of the fields. -/
structure Fields where
  shape : Expected
  value : Setting

/-- The fields of a record. -/
def toFields (shape : Expected) (v : Setting) : Except ReadError Fields :=
  match v with
  | .table _ _ => .ok ⟨shape, v⟩
  | .list _ _ => .ok ⟨shape, v⟩
  | v => .error (.shape v.foundShape shape)

namespace Fields

/-- The value of a field, given its place and its name. -/
def read? {α : Type} (f : Fields) (place : Nat) (name : String)
    (read : Setting → Except ReadError α) : Except ReadError (Option α) :=
  match f.value with
  | .list _ elements =>
    match elements[place]? with
    | some v => ((read v).mapError (.atPlace place)).map some
    | none => .ok none
  | v =>
    match find? v.entries name with
    | some v => ((read v).mapError (.under name)).map some
    | none => .ok none

/-- A field with a value of its own where it is missing. -/
def readOr {α : Type} (f : Fields) (place : Nat) (name : String) (default : α)
    (read : Setting → Except ReadError α) : Except ReadError α :=
  (f.read? place name read).map (·.getD default)

/-- A field that a list must have, even though a table need not. -/
def readListed? {α : Type} (f : Fields) (place : Nat) (name : String)
    (read : Setting → Except ReadError α) : Except ReadError (Option α) := do
  match f.value, ← f.read? place name read with
  | .list _ _, none => throw (.tooShort place f.shape)
  | _, found => return found

end Fields

/-! ## The records of the settings -/

/-- The settings of the page. -/
def toServer (v : Setting) : Except ReadError ServerSettings := do
  let defaults : ServerSettings := {}
  let f ← v.toFields (.record "ServerConfig" 5)
  return {
    host := ← f.readOr 0 "host" defaults.host toText
    port := ← f.readOr 1 "port" defaults.port (toWord 16 .word16)
    metricsPath := ← f.readOr 2 "metrics_path" defaults.metricsPath toText
    logLevel := ← f.readOr 3 "log_level" defaults.logLevel toText
    logFormat := ← f.readOr 4 "log_format" defaults.logFormat toText }

/-- The settings of scraping. -/
def toMetrics (v : Setting) : Except ReadError MetricsSettings := do
  let defaults : MetricsSettings := {}
  let f ← v.toFields (.record "MetricsConfig" 6)
  return {
    namespaceName := ← f.readOr 0 "namespace" defaults.namespaceName toText
    databaseLabel := ← f.readOr 1 "database_label" defaults.databaseLabel toText
    builtIn := (← f.readListed? 2 "default" (toOption toText)).join
    custom := ← f.readOr 3 "custom" defaults.custom (toList toText)
    scrapeIntervalSeconds :=
      ← f.readOr 4 "scrape_interval_seconds" defaults.scrapeIntervalSeconds toCount
    connectionBackoffSeconds :=
      ← f.readOr 5 "connection_backoff_seconds" defaults.connectionBackoffSeconds toCount }

/-- The settings of log tailing. -/
def toLog (v : Setting) : Except ReadError LogSettings := do
  let defaults : LogSettings := {}
  let f ← v.toFields (.record "LogConfig" 4)
  return {
    enabled := ← f.readOr 0 "enabled" defaults.enabled toFlag
    intervalSeconds := ← f.readOr 1 "interval_seconds" defaults.intervalSeconds toCount
    destination := ← f.readOr 2 "destination" defaults.destination toText
    query := ← f.readOr 3 "query" defaults.query toText }

/-- The settings of a target. Its url has no default. -/
def toTarget (v : Setting) : Except ReadError TargetSettings := do
  let defaults : TargetSettings := ⟨"", none, none, none, none, none, none, 10, 0, none, 5, []⟩
  let f ← v.toFields (.record "TargetConfig" 12)
  let url ← f.readListed? 0 "url" toText
  let settings : TargetSettings := {
    url := url.getD ""
    username := (← f.readListed? 1 "username" (toOption toText)).join
    password := (← f.readListed? 2 "password" (toOption toText)).join
    passwordFile := (← f.readListed? 3 "password_file" (toOption toText)).join
    passwordEnv := (← f.readListed? 4 "password_env" (toOption toText)).join
    usernameEnv := (← f.readListed? 5 "username_env" (toOption toText)).join
    role := (← f.readListed? 6 "role" (toOption toText)).join
    maxOpenConns := ← f.readOr 7 "max_open_conns" defaults.maxOpenConns (toWord 32 .word32)
    poolMinConnections :=
      ← f.readOr 8 "pool_min_connections" defaults.poolMinConnections (toWord 32 .word32)
    poolMaxConnections :=
      (← f.readListed? 9 "pool_max_connections" (toOption (toWord 32 .word32))).join
    queryTimeoutSeconds :=
      ← f.readOr 10 "query_timeout_seconds" defaults.queryTimeoutSeconds toCount
    labels := ← f.readOr 11 "labels" defaults.labels (toMap toText) }
  match url with
  | none => throw (.missing "url")
  | some _ => return settings

/-- All settings. -/
def toSettings (v : Setting) : Except ReadError Settings := do
  let defaults : Settings := {}
  let f ← v.toFields (.record "Config" 4)
  return {
    server := ← f.readOr 0 "server" defaults.server toServer
    metrics := ← f.readOr 1 "metrics" defaults.metrics toMetrics
    log := ← f.readOr 2 "log" defaults.log toLog
    targets := ← f.readOr 3 "targets" defaults.targets (toMap toTarget) }

end Setting

end Telemetry
