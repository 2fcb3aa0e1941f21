import Telemetry.Time.Duration

/-!
# Instants

Moments of the exporter's own clock, which never goes back.
-/

namespace Telemetry

/-- A moment, in nanoseconds since the exporter's clock began. -/
abbrev Instant := Nat

namespace Instant

/-- The moment so much later. -/
def after (now : Instant) (d : Duration) : Instant := now + d.nanos

/-- The time since an earlier moment; none has passed since a later one. -/
def since (now earlier : Instant) : Duration := ⟨now - earlier⟩

/-- The whole milliseconds since the clock began. -/
def millis (now : Instant) : Nat := now / 1000000

theorem lt_since_iff (now earlier : Instant) (d : Duration) :
    d.nanos < (now.since earlier).nanos ↔ earlier.after d < now := by
  change d.nanos < now - earlier ↔ earlier + d.nanos < now
  rw [Nat.lt_sub_iff_add_lt, Nat.add_comm]

end Instant

end Telemetry
