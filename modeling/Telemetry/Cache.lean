import Telemetry.Keyed
import Telemetry.Observation
import Telemetry.Time.Instant

/-!
# The cache of computed metrics

The last successful computation of each definition for each target. A definition with a scrape
interval is due again when strictly more than the interval has passed since then.
-/

namespace Telemetry

/-- A computation that succeeded. -/
structure CacheRecord where
  observations : List Observation
  computedAt : Instant
  deriving DecidableEq, Repr

/-- The last successful computations, by target and definition. -/
structure MetricCache where
  records : List ((String × String) × CacheRecord)
  deriving DecidableEq, Repr

namespace MetricCache

/-- Nothing computed yet. -/
def empty : MetricCache := ⟨[]⟩

/-- The last successful computation of a definition for a target. -/
def cached? (cache : MetricCache) (target : String) (d : Definition) : Option CacheRecord :=
  Keyed.get? cache.records (target, d.id)

/-- The definition has to be computed for the target now. -/
def isDue (cache : MetricCache) (target : String) (d : Definition) (now : Instant) : Bool :=
  match d.scrapeInterval with
  | none => true
  | some interval =>
    match cache.cached? target d with
    | none => true
    | some record => (now.since record.computedAt).nanos > interval.nanos

theorem isDue_iff (cache : MetricCache) (target : String) (d : Definition) (now : Instant) :
    cache.isDue target d now = true ↔ d.scrapeInterval = none ∨ cache.cached? target d = none ∨
      ∃ interval record, d.scrapeInterval = some interval ∧ cache.cached? target d = some record ∧
        record.computedAt.after interval < now := by
  rw [isDue]
  cases d.scrapeInterval with
  | none => simp
  | some interval =>
    cases cache.cached? target d with
    | none => simp
    | some record => simp [Instant.lt_since_iff]

/-- An answer about a definition hangs on the entry for it alone. -/
theorem isDue_congr {cache cache' : MetricCache} {target : String} {d : Definition}
    (h : cache'.cached? target d = cache.cached? target d) (now : Instant) :
    cache'.isDue target d now = cache.isDue target d now := by
  rw [isDue, isDue, h]

/-- Keeps a successful computation in the place of an earlier one. -/
def record (cache : MetricCache) (target : String) (d : Definition)
    (observations : List Observation) (now : Instant) : MetricCache :=
  ⟨Keyed.put cache.records (target, d.id) ⟨observations, now⟩⟩

/-- How many computations are kept. -/
def size (cache : MetricCache) : Nat := cache.records.length

end MetricCache

end Telemetry
