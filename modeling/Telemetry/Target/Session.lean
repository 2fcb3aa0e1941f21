import Telemetry.Database.Reply
import Telemetry.Row

/-!
# Sessions

A session is what a target's database is asked through. What the database answers is a parameter
of everything that follows: a `Server` says, for each thing that a database can be asked for, what
comes back and how the database changes by it. Nothing else is known of a database, so what holds
of the exporter holds whatever databases do.
-/

namespace Telemetry

/-- How a database with states of type `σ` answers. A session is known by its generation, a number
that the database gives it. -/
structure Server (σ : Type) where
  /-- Makes a session, or refuses to. -/
  connect : σ → Except DbError Nat × σ
  /-- A round trip. -/
  ping : Nat → σ → Reply Unit × σ
  /-- The rows of a query. -/
  fetch : Nat → String → σ → Reply (List Row) × σ
  /-- Takes a connection out of the pool of the session. -/
  lease : Nat → σ → Reply Unit × σ

/-- How a database answers at each moment. -/
abbrev Clocked (σ : Type) := Instant → Server σ

/-- The database answers alike at every moment. -/
def Server.steady {σ : Type} (server : Server σ) : Clocked σ := fun _ => server

/-- Databases that cannot be reached, for one reason. -/
def Server.unreachable (reason : String) : Server Unit where
  connect := fun _ => (.error (.closed reason), ())
  ping := fun _ _ => (.atOnce (.error (.closed reason)), ())
  fetch := fun _ _ _ => (.atOnce (.error (.closed reason)), ())
  lease := fun _ _ => (.atOnce (.error (.closed reason)), ())

/-- What a database is asked through. -/
inductive Session where
  /-- A session that the database gave. -/
  | live (generation : Nat)
  /-- What stands in for a session that could not be made; it counts as closed. -/
  | unavailable (reason : String)
  deriving DecidableEq, Repr

namespace Session

variable {σ : Type} (server : Server σ)

/-- A round trip. -/
def ping (s : Session) (state : σ) : Reply Unit × σ :=
  match s with
  | .live generation => server.ping generation state
  | .unavailable reason => (.atOnce (.error (.closed reason)), state)

/-- The rows of a query. -/
def fetch (s : Session) (query : String) (state : σ) : Reply (List Row) × σ :=
  match s with
  | .live generation => server.fetch generation query state
  | .unavailable reason => (.atOnce (.error (.closed reason)), state)

/-- Takes a connection out of the pool of the session. -/
def lease (s : Session) (state : σ) : Reply Unit × σ :=
  match s with
  | .live generation => server.lease generation state
  | .unavailable reason => (.atOnce (.error (.closed reason)), state)

end Session

end Telemetry
