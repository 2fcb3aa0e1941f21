import Telemetry.Keyed
import Telemetry.Target.Session
import Telemetry.Text.Search

/-!
# Rehearsals

A database that answers from a script, so that the exporter can be rehearsed without a server. It
counts what it is asked for, and it gives its sessions the numbers of the attempts at opening one.
-/

namespace Telemetry

/-- What a scripted database answers to a query. -/
structure ScriptedResponse where
  /-- The queries that it is for hold this text. -/
  pattern : String
  reply : Reply (List Row)

/-- A scripted database. -/
structure Rehearsal where
  /-- There is no such database: the error of every attempt at a session. -/
  absent : Option DbError := none
  opens : Nat := 0
  pings : Nat := 0
  leases : Nat := 0
  /-- The queries with the sessions that they came from, in order. -/
  queries : List (Nat × String) := []
  /-- What the next attempts at a session give. -/
  openScript : List (Option DbError) := []
  /-- What an attempt gives when the script is over. -/
  openError : Option DbError := none
  pingScript : List (Option DbError) := []
  pingError : Option DbError := none
  pingDelay : Duration := .zero
  /-- How many leases a session gives. -/
  leaseLimit : Option Nat := none
  leaseError : DbError := .other "too many connections"
  leaseDelay : Duration := .zero
  /-- How many leases each session was asked for. -/
  leased : List (Nat × Nat) := []
  /-- The responses in the order in which they are tried. -/
  responses : List ScriptedResponse := []

namespace Rehearsal

/-- The next entry of a script, or what stands when it is over. -/
def nextOf (script : List (Option DbError)) (standing : Option DbError) :
    Option DbError × List (Option DbError) :=
  match script with
  | entry :: rest => (entry, rest)
  | [] => (standing, [])

/-- An error, or success with a value. -/
def outcomeOf {α : Type} (error : Option DbError) (value : α) : Except DbError α :=
  match error with
  | some e => .error e
  | none => .ok value

/-- An attempt at a session. -/
def connect (r : Rehearsal) : Except DbError Nat × Rehearsal :=
  match r.absent with
  | some e => (.error e, r)
  | none =>
    let (entry, rest) := nextOf r.openScript r.openError
    let r := { r with opens := r.opens + 1, openScript := rest }
    (outcomeOf entry r.opens, r)

/-- A round trip. -/
def ping (_ : Nat) (r : Rehearsal) : Reply Unit × Rehearsal :=
  let (entry, rest) := nextOf r.pingScript r.pingError
  (⟨r.pingDelay, outcomeOf entry ()⟩, { r with pings := r.pings + 1, pingScript := rest })

/-- The answer to a query: that of the first response whose text it holds, or no rows. -/
def answer (r : Rehearsal) (query : String) : Reply (List Row) :=
  match r.responses.find? fun response => Text.contains query response.pattern with
  | some response => response.reply
  | none => .atOnce (.ok [])

/-- The rows of a query. -/
def fetch (generation : Nat) (query : String) (r : Rehearsal) : Reply (List Row) × Rehearsal :=
  (r.answer query, { r with queries := r.queries ++ [(generation, query)] })

/-- How many leases a session was asked for. -/
def leasedFrom (r : Rehearsal) (generation : Nat) : Nat :=
  (Keyed.get? r.leased generation).getD 0

/-- Asks a session for a lease. -/
def lease (generation : Nat) (r : Rehearsal) : Reply Unit × Rehearsal :=
  let n := r.leasedFrom generation + 1
  let refused : Bool := match r.leaseLimit with
    | some limit => decide (n > limit)
    | none => false
  (⟨r.leaseDelay, if refused then .error r.leaseError else .ok ()⟩,
    { r with
      leases := r.leases + 1
      leased := Keyed.put r.leased generation n })

/-- Scripted databases as databases. -/
def server : Server Rehearsal := ⟨connect, ping, fetch, lease⟩

/-- Sets the response for a text, behind the others. -/
def respond (r : Rehearsal) (response : ScriptedResponse) : Rehearsal :=
  { r with responses := r.responses.filter (·.pattern ≠ response.pattern) ++ [response] }

end Rehearsal

end Telemetry
