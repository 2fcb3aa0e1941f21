import Telemetry.Log.File
import Telemetry.Settings.Basic
import Telemetry.Target.Connection

/-!
# Log tailing

A cycle of log tailing checks a target, finds the moment to resume from in the local file, asks
the database for what is newer, and appends it. Three failures of the query without a success in
between end the tailing of a target for good; a target that does not pass its check and a file
that cannot be used leave that count as it is.
-/

namespace Telemetry

/-- What is kept about the tailing of a target. -/
structure TailState where
  /-- The failures of the query since the last success. -/
  failures : Nat := 0
  disabled : Bool := false
  deriving DecidableEq, Repr

namespace TailState

/-- The failures after which a target is given up. -/
def maxFailures : Nat := 3

/-- A cycle succeeded. -/
def succeed (s : TailState) : TailState := { s with failures := 0 }

/-- The query failed. -/
def fail (s : TailState) : TailState :=
  ⟨s.failures + 1, s.disabled || s.failures + 1 ≥ maxFailures⟩

end TailState

namespace Tail

/-- What came of a cycle. -/
inductive Outcome where
  /-- The target is given up. -/
  | disabled
  /-- The target could not be asked. -/
  | skipped
  | failed (error : TailError)
  /-- So many records were appended. -/
  | appended (count : Nat)
  deriving DecidableEq, Repr

/-- The state of the tailing after a cycle. -/
def Outcome.update (s : TailState) : Outcome → TailState
  | .disabled | .skipped => s
  | .failed e => if e.isQueryFailure then s.fail else s
  | .appended _ => s.succeed

/-- The number of records that were appended; none when the cycle did not succeed. -/
def Outcome.count? : Outcome → Option Nat
  | .appended n => some n
  | _ => none

/-- What a cycle has found out before it appends anything. -/
structure Inquiry (σ : Type) where
  /-- The moment to resume from with the rows that came for it, or the end of the cycle. -/
  answer : Except Outcome (Timestamp × List Row)
  connection : Connection σ
  files : Files
  now : Instant

/-- What a cycle leaves behind. -/
structure Cycle (σ : Type) where
  outcome : Outcome
  connection : Connection σ
  files : Files
  now : Instant

variable {σ : Type} (server : Clocked σ) (limits : ConnectionLimits) (log : LogSettings)

/-- The query of a cycle: the moment to resume from is put in. -/
def queryFrom (since : Timestamp) : String :=
  Text.replace log.query LogSettings.sinceMark since.text

/-- Asks for what is newer than a moment. -/
def fetchSince (fs : Files) (since : Timestamp) (now : Instant) (c : Connection σ) : Inquiry σ :=
  match c.acquire now with
  | .error _ => ⟨.error .skipped, c, fs, now⟩
  | .ok session =>
    let deadline := c.target.settings.queryTimeout
    let (reply, database) := session.fetch (server now) (queryFrom log since) c.database
    let c := { c with database := database }
    let now := now.after (reply.elapsed deadline)
    match reply.within deadline with
    | .error e => ⟨.error (.failed (.query e)), c, fs, now⟩
    | .ok rows => ⟨.ok (since, rows), c, fs, now⟩

/-- Finds where to resume, and asks for what is newer, on behalf of a target that passed its
check. -/
def resume (fs : Files) (now : Instant) (c : Connection σ) : Inquiry σ :=
  let path := log.destinationFor c.target.name
  match fs.ensure path with
  | (.error cause, fs) => ⟨.error (.failed (.file path cause)), c, fs, now⟩
  | (.ok _, fs) =>
    match LogFile.readCursor fs path with
    | .error cause => ⟨.error (.failed (.file path cause)), c, fs, now⟩
    | .ok since => fetchSince server log fs since now c

/-- The part of a cycle before anything is appended. -/
def ask (state : TailState) (fs : Files) (now : Instant) (c : Connection σ) : Inquiry σ :=
  if state.disabled then ⟨.error .disabled, c, fs, now⟩
  else
    let checked := c.check server limits now
    match checked.result with
    | .healthy => resume server log fs checked.now checked.connection
    | .down | .invalid => ⟨.error .skipped, checked.connection, fs, checked.now⟩

/-- Appends what is newer than a moment. -/
def store (fs : Files) (path : String) (since : Timestamp) (rows : List Row) : Outcome × Files :=
  let records := LogRecord.newer rows since
  if records.isEmpty then (.appended 0, fs)
  else match LogFile.appendRecords fs path records with
    | .ok fs => (.appended records.length, fs)
    | .error e => (.failed e, fs)

/-- A cycle for a target. -/
def cycle (state : TailState) (fs : Files) (now : Instant) (c : Connection σ) : Cycle σ :=
  let asked := ask server limits log state fs now c
  match asked.answer with
  | .error outcome => ⟨outcome, asked.connection, asked.files, asked.now⟩
  | .ok (since, rows) =>
    let (outcome, fs) := store asked.files (log.destinationFor c.target.name) since rows
    ⟨outcome, asked.connection, fs, asked.now⟩

end Tail

end Telemetry
