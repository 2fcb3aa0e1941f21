import Telemetry.Text.Search
import Telemetry.Time.Duration

/-!
# What can go wrong with a database

The errors of a session, classified by what the exporter does about them: rebuild a closed
session, back off after rejected credentials, report a missed deadline, or just try again.

* `isCredentialFailure` decides from a code and a message whether credentials were rejected.
* `DbError.ofFault` classifies what a database client reports.
* `ScrapeError.ofDbError` is what a failed query means for the metric that it was run for.
-/

namespace Telemetry

/-- The error of a session operation. -/
inductive DbError where
  /-- The session is gone and must be rebuilt. -/
  | closed (reason : String)
  /-- The server rejected the credentials. -/
  | invalidCredentials (code message : String)
  /-- The operation exceeded its deadline. -/
  | timeout (deadline : Duration)
  /-- Anything else; the next tick tries again. -/
  | other (message : String)
  deriving DecidableEq, Repr

namespace DbError

/-- The text of an error. -/
def message : DbError → String
  | .closed reason => "session closed: " ++ reason
  | .invalidCredentials code message =>
    "invalid credentials (code " ++ code ++ "): " ++ message
  | .timeout deadline => "operation timed out after " ++ deadline.text
  | .other message => message

/-- The session is gone. -/
def isClosed : DbError → Bool
  | .closed _ => true
  | _ => false

/-- The credentials were rejected. -/
def isInvalidCredentials : DbError → Bool
  | .invalidCredentials .. => true
  | _ => false

/-- A closed session is no rejection. -/
theorem isInvalidCredentials_of_isClosed {e : DbError} (h : e.isClosed = true) :
    e.isInvalidCredentials = false := by
  cases e with
  | closed _ => rfl
  | _ => cases h

end DbError

/-- State and vendor codes with which servers reject credentials. -/
def credentialCodes : List String := ["28000", "28P01", "1017", "1045"]

/-- Marks of rejected credentials in messages that come without a code. -/
def credentialMarks : List String := ["ORA-01017", "ORA-28000"]

/-- A code or a message that means rejected credentials. -/
def isCredentialFailure (code message : String) : Bool :=
  credentialCodes.contains code || credentialMarks.any (Text.contains message)

/-- What a database client reports when an operation fails. -/
inductive ClientFault where
  /-- The server answered with an error. -/
  | database (code : Option String) (message : String)
  /-- The transport failed. -/
  | transport (message : String)
  | poolClosed
  | poolTimedOut
  | workerCrashed
  | rowNotFound
  | protocol (message : String)
  | configuration (message : String)
  deriving DecidableEq, Repr

/-- The error with this text, which may turn out to be about credentials. -/
def DbError.ofText (code message : String) : DbError :=
  if isCredentialFailure code message then .invalidCredentials code message else .other message

/-- Classifies what a database client reports. -/
def DbError.ofFault : ClientFault → DbError
  | .database code message => .ofText (code.getD "") message
  | .transport message => .closed message
  | .poolClosed => .closed "connection pool closed"
  | .workerCrashed => .closed "connection worker crashed"
  | .poolTimedOut => .ofText "" "pool timed out while waiting for an open connection"
  | .rowNotFound =>
    .ofText "" "no rows returned by a query that expected to return at least one row"
  | .protocol message => .ofText "" ("encountered unexpected or invalid data: " ++ message)
  | .configuration message => .ofText "" ("error with configuration: " ++ message)

/-- Why a metric could not be computed. -/
inductive ScrapeError where
  | timeout (deadline : Duration)
  /-- The query returned no rows. -/
  | zeroResult
  /-- The query returned rows without a single readable value. -/
  | noParseableValues (rows : Nat)
  | query (error : DbError)
  /-- The target is skipped for now. -/
  | targetUnavailable (target : String)
  deriving DecidableEq, Repr

namespace ScrapeError

/-- The text of an error. -/
def message : ScrapeError → String
  | .timeout deadline => "query timed out after " ++ deadline.text
  | .zeroResult => "no metrics found while parsing, query returned no rows"
  | .noParseableValues rows =>
    "query returned " ++ Text.ofNat rows ++ " row(s) but no parseable value column"
  | .query error => "query failed: " ++ error.message
  | .targetUnavailable target => "target '" ++ target ++ "' is not available"

/-- The error is to be counted and reported. No rows is a steady state for a definition that
tolerates it. -/
def shouldReport (e : ScrapeError) (ignoreZeroResult : Bool) : Bool :=
  !(ignoreZeroResult && e == .zeroResult)

/-- What a failed query means for its metric. -/
def ofDbError : DbError → ScrapeError
  | .timeout deadline => .timeout deadline
  | e => .query e

end ScrapeError

end Telemetry
