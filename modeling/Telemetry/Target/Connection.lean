import Telemetry.Target.Basic
import Telemetry.Target.Session

/-!
# Connections

The state of one target: its session, its health, and its database. A check pings the session and
drives the health:

* a ping that succeeds makes the target healthy,
* a closed session is rebuilt, once in a check, and pinged again,
* rejected credentials make the target invalid until a backoff is over, and the first check after
  that rebuilds the session before anything else is asked of it,
* any other failure makes the target down until the next check.
-/

namespace Telemetry

/-- The deadlines and pauses of connections. -/
structure ConnectionLimits where
  pingTimeout : Duration := .ofSeconds 5
  /-- How long a target is left alone after it rejected credentials. -/
  backoff : Duration := .ofSeconds 300
  /-- The pause before each connection of a warm-up. -/
  warmUpDelay : Duration := .ofMillis 100
  warmUpTimeout : Duration := .ofSeconds 5
  deriving DecidableEq, Repr

/-- The result of a check. -/
inductive Health where
  | healthy
  /-- Down for now; the next check tries again. -/
  | down
  /-- Credentials were rejected, and the backoff is not over. -/
  | invalid
  deriving DecidableEq, Repr

/-- The health of a target. -/
structure HealthState where
  /-- The target answered when it was last asked. A target is not up before that. -/
  up : Bool := false
  /-- The end of a backoff; it stays until a check begins after it. -/
  invalidUntil : Option Instant := none
  deriving DecidableEq, Repr

namespace HealthState

/-- The target is not inside a backoff. -/
def isValidAt (h : HealthState) (now : Instant) : Bool :=
  match h.invalidUntil with
  | some moment => moment ≤ now
  | none => true

/-- Begins a backoff. -/
def invalidateAt (now : Instant) (backoff : Duration) : HealthState :=
  ⟨false, some (now.after backoff)⟩

@[simp]
theorem invalidUntil_invalidateAt (now : Instant) (backoff : Duration) :
    (invalidateAt now backoff).invalidUntil = some (now.after backoff) := rfl

end HealthState

/-- The state of one target. -/
structure Connection (σ : Type) where
  target : Target
  session : Session
  health : HealthState
  database : σ

/-- What came of an operation on a connection, and when. -/
structure Settled (σ α : Type) where
  result : α
  connection : Connection σ
  now : Instant

namespace Connection

variable {σ : Type} (server : Clocked σ) (limits : ConnectionLimits)

/-- The connection of a target when the exporter starts at some moment. -/
def start (now : Instant) (target : Target) (database : σ) : Connection σ :=
  match (server now).connect database with
  | (.ok generation, database) => ⟨target, .live generation, {}, database⟩
  | (.error e, database) => ⟨target, .unavailable e.message, {}, database⟩

/-- The target is up, and not inside a backoff. -/
def isAvailableAt (c : Connection σ) (now : Instant) : Bool :=
  c.health.up && c.health.isValidAt now

/-- Puts a fresh session in the place of the present one. -/
def reconnect (now : Instant) (c : Connection σ) : Except DbError Unit × Connection σ :=
  match (server now).connect c.database with
  | (.ok generation, database) =>
    (.ok (), { c with session := .live generation, database := database })
  | (.error e, database) => (.error e, { c with database := database })

/-- Pings the session. -/
def ping (now : Instant) (c : Connection σ) : Settled σ (Except DbError Unit) :=
  let (reply, database) := c.session.ping (server now) c.database
  ⟨reply.within limits.pingTimeout, { c with database := database },
    now.after (reply.elapsed limits.pingTimeout)⟩

/-- The target answered. -/
def succeed (now : Instant) (c : Connection σ) : Settled σ Health :=
  ⟨.healthy, { c with health := { c.health with up := true } }, now⟩

/-- The target failed: rejected credentials begin a backoff. -/
def fail (now : Instant) (e : DbError) (c : Connection σ) : Settled σ Health :=
  if e.isInvalidCredentials then
    ⟨.invalid, { c with health := .invalidateAt now limits.backoff }, now⟩
  else ⟨.down, { c with health := { c.health with up := false } }, now⟩

/-- Pings the session, and takes what comes for final. -/
def probeOnce (now : Instant) (c : Connection σ) : Settled σ Health :=
  let pinged := c.ping server limits now
  match pinged.result with
  | .ok _ => pinged.connection.succeed pinged.now
  | .error e => pinged.connection.fail limits pinged.now e

/-- Rebuilds the session, and goes on with it if that succeeds. -/
def rebuildThen (next : Instant → Connection σ → Settled σ Health) (now : Instant)
    (c : Connection σ) : Settled σ Health :=
  match c.reconnect server now with
  | (.ok _, c) => next now c
  | (.error e, c) => c.fail limits now e

/-- Pings the session, and rebuilds it if it is closed. -/
def probe (now : Instant) (c : Connection σ) : Settled σ Health :=
  let pinged := c.ping server limits now
  match pinged.result with
  | .ok _ => pinged.connection.succeed pinged.now
  | .error e =>
    if e.isClosed then
      pinged.connection.rebuildThen server limits (fun now c => c.probeOnce server limits now)
        pinged.now
    else pinged.connection.fail limits pinged.now e

/-- Checks the target. -/
def check (now : Instant) (c : Connection σ) : Settled σ Health :=
  if c.health.isValidAt now then
    let ready := { c with health := { c.health with invalidUntil := none } }
    if c.health.invalidUntil.isSome then
      ready.rebuildThen server limits (fun now c => c.probe server limits now) now
    else ready.probe server limits now
  else ⟨.invalid, { c with health := { c.health with up := false } }, now⟩

/-- The session of a target that is not inside a backoff. -/
def acquire (now : Instant) (c : Connection σ) : Except ScrapeError Session :=
  if c.health.isValidAt now then .ok c.session else .error (.targetUnavailable c.target.name)

/-! ## Warming up -/

/-- The pool is complete: the target is up, unless a backoff began in the meantime. -/
def warmed (now : Instant) (c : Connection σ) : Settled σ Bool :=
  ⟨true, { c with health := { c.health with up := c.health.up || c.health.isValidAt now } }, now⟩

/-- A connection was refused. -/
def notWarmed (now : Instant) (e : DbError) (c : Connection σ) : Settled σ Bool :=
  ⟨false, (c.fail limits now e).connection, now⟩

/-- Takes so many connections out of the pool, with a pause before each, and stops at the first
that is refused. -/
def takeLeases : Nat → Instant → Connection σ → Settled σ Bool
  | 0, now, c => c.warmed now
  | left + 1, now, c =>
    let now := now.after limits.warmUpDelay
    let (reply, database) := c.session.lease (server now) c.database
    let c := { c with database := database }
    let now := now.after (reply.elapsed limits.warmUpTimeout)
    match reply.within limits.warmUpTimeout with
    | .ok _ => takeLeases left now c
    | .error e => c.notWarmed limits now e

/-- Fills the pool of a target before it is needed. -/
def warmUp (now : Instant) (c : Connection σ) : Settled σ Bool :=
  c.takeLeases server limits c.target.settings.poolSize now

end Connection

end Telemetry
