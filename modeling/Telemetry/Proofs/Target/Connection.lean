import Telemetry.Target.Connection

/-!
# What is done with a connection

What a check does depends on the backoff: while one is under way nothing is asked, the first check
after it rebuilds the session, and any other check begins with a ping.

Whatever is done with a connection, it remains the connection of its target, and a target that
passes its check has a live session and no backoff behind it.
-/

namespace Telemetry.Connection

variable {σ : Type} (server : Clocked σ) (limits : ConnectionLimits) (now : Instant)
  (c : Connection σ)

/-! ## The three kinds of checks -/

/-- The connection with no backoff behind it. -/
def withoutBackoff : Connection σ :=
  { c with health := { c.health with invalidUntil := none } }

variable {c now} in
theorem check_of_free (h : c.health.invalidUntil = none) :
    c.check server limits now = c.withoutBackoff.probe server limits now := by
  rw [check, HealthState.isValidAt, h]
  rfl

variable {c now} in
theorem check_of_over {moment : Instant} (h : c.health.invalidUntil = some moment)
    (hover : moment ≤ now) :
    c.check server limits now = c.withoutBackoff.rebuildThen server limits
      (fun now c ↦ c.probe server limits now) now := by
  rw [check, HealthState.isValidAt, h]
  exact if_pos (decide_eq_true hover)

variable {c now} in
theorem check_of_under {moment : Instant} (h : c.health.invalidUntil = some moment)
    (hunder : ¬ moment ≤ now) :
    c.check server limits now =
      ⟨.invalid, { c with health := { c.health with up := false } }, now⟩ := by
  rw [check, HealthState.isValidAt, h]
  exact if_neg (by rw [decide_eq_true_eq]; exact hunder)

/-! ## The target -/

theorem target_start (target : Target) (database : σ) :
    (start server now target database).target = target := by
  rw [start]
  rcases (server now).connect database with ⟨result, database'⟩
  cases result with
  | ok generation => rfl
  | error e => rfl

/-- No target is up, and none is left alone, before it was asked for something. -/
theorem health_start (target : Target) (database : σ) :
    (start server now target database).health = {} := by
  rw [start]
  rcases (server now).connect database with ⟨result, database'⟩
  cases result with
  | ok generation => rfl
  | error e => rfl

theorem target_reconnect : (c.reconnect server now).2.target = c.target := by
  rw [reconnect]
  rcases (server now).connect c.database with ⟨result, database⟩
  cases result with
  | ok generation => rfl
  | error e => rfl

theorem target_fail (e : DbError) : (c.fail limits now e).connection.target = c.target := by
  rw [fail]
  split
  · rfl
  · rfl

theorem target_probeOnce : (c.probeOnce server limits now).connection.target = c.target := by
  rw [probeOnce]
  cases (c.ping server limits now).result with
  | ok _ => rfl
  | error e => exact target_fail limits _ _ e

theorem target_rebuildThen {next : Instant → Connection σ → Settled σ Health}
    (hnext : ∀ now c, (next now c).connection.target = c.target) :
    (c.rebuildThen server limits next now).connection.target = c.target := by
  have htarget := target_reconnect server now c
  rw [rebuildThen]
  rcases h : c.reconnect server now with ⟨result, c'⟩
  rw [h] at htarget
  cases result with
  | ok _ => exact (hnext now c').trans htarget
  | error e => exact (target_fail limits now c' e).trans htarget

theorem target_probe : (c.probe server limits now).connection.target = c.target := by
  rw [probe]
  cases (c.ping server limits now).result with
  | ok _ => rfl
  | error e =>
    dsimp only
    split
    · exact target_rebuildThen server limits _ _ fun now c ↦ target_probeOnce server limits now c
    · exact target_fail limits _ _ e

/-- A check does not touch the target. -/
theorem target_check : (c.check server limits now).connection.target = c.target := by
  cases huntil : c.health.invalidUntil with
  | none =>
    rw [check_of_free server limits huntil]
    exact target_probe server limits now c.withoutBackoff
  | some moment =>
    by_cases hover : moment ≤ now
    · rw [check_of_over server limits huntil hover]
      exact target_rebuildThen server limits now c.withoutBackoff fun now c ↦
        target_probe server limits now c
    · rw [check_of_under server limits huntil hover]

theorem target_takeLeases (left : Nat) :
    (c.takeLeases server limits left now).connection.target = c.target := by
  induction left generalizing now c with
  | zero => rfl
  | succ left ih =>
    rw [takeLeases]
    dsimp only
    split
    · exact ih _ _
    · exact target_fail limits _ _ _

/-- A warm-up does not touch the target. -/
theorem target_warmUp : (c.warmUp server limits now).connection.target = c.target :=
  target_takeLeases server limits now c _

/-! ## A healthy target has a live session -/

theorem result_fail_ne_healthy (e : DbError) : (c.fail limits now e).result ≠ .healthy := by
  rw [fail]
  split
  · simp
  · simp

theorem live_of_ping_ok {u : Unit} (h : (c.ping server limits now).result = .ok u) :
    ∃ generation, c.session = .live generation := by
  cases hsession : c.session with
  | live generation => exact ⟨generation, rfl⟩
  | unavailable reason =>
    simp only [ping, hsession, Session.ping, Reply.within_atOnce] at h
    cases h

theorem live_of_probeOnce_healthy (h : (c.probeOnce server limits now).result = .healthy) :
    ∃ generation, (c.probeOnce server limits now).connection.session = .live generation := by
  rw [probeOnce] at h ⊢
  cases hping : (c.ping server limits now).result with
  | ok u => exact live_of_ping_ok server limits now c hping
  | error e =>
    simp only [hping] at h
    exact absurd h (result_fail_ne_healthy limits _ _ e)

theorem live_of_rebuildThen_healthy {next : Instant → Connection σ → Settled σ Health}
    (hnext : ∀ now c, (next now c).result = .healthy →
      ∃ generation, (next now c).connection.session = .live generation)
    (h : (c.rebuildThen server limits next now).result = .healthy) :
    ∃ generation, (c.rebuildThen server limits next now).connection.session = .live generation := by
  rw [rebuildThen] at h ⊢
  generalize c.reconnect server now = rebuilt at h ⊢
  rcases rebuilt with ⟨result, c'⟩
  cases result with
  | ok u => exact hnext now c' h
  | error e => exact absurd h (result_fail_ne_healthy limits now c' e)

theorem live_of_probe_healthy (h : (c.probe server limits now).result = .healthy) :
    ∃ generation, (c.probe server limits now).connection.session = .live generation := by
  rw [probe] at h ⊢
  cases hping : (c.ping server limits now).result with
  | ok u => exact live_of_ping_ok server limits now c hping
  | error e =>
    simp only [hping] at h ⊢
    by_cases hclosed : e.isClosed = true
    · rw [if_pos hclosed] at h ⊢
      exact live_of_rebuildThen_healthy server limits _ _
        (fun now c ↦ live_of_probeOnce_healthy server limits now c) h
    · rw [if_neg hclosed] at h
      exact absurd h (result_fail_ne_healthy limits _ _ e)

/-- A target that passes its check has a live session. -/
theorem live_of_check_healthy (h : (c.check server limits now).result = .healthy) :
    ∃ generation, (c.check server limits now).connection.session = .live generation := by
  cases huntil : c.health.invalidUntil with
  | none =>
    rw [check_of_free server limits huntil] at h ⊢
    exact live_of_probe_healthy server limits now c.withoutBackoff h
  | some moment =>
    by_cases hover : moment ≤ now
    · rw [check_of_over server limits huntil hover] at h ⊢
      exact live_of_rebuildThen_healthy server limits now c.withoutBackoff
        (fun now c ↦ live_of_probe_healthy server limits now c) h
    · rw [check_of_under server limits huntil hover] at h
      cases h

/-! ## A healthy target is not left alone -/

theorem invalidUntil_of_probeOnce_healthy (h : (c.probeOnce server limits now).result = .healthy) :
    (c.probeOnce server limits now).connection.health.invalidUntil = c.health.invalidUntil := by
  rw [probeOnce] at h ⊢
  cases hping : (c.ping server limits now).result with
  | ok u => rfl
  | error e =>
    simp only [hping] at h
    exact absurd h (result_fail_ne_healthy limits _ _ e)

theorem health_reconnect : (c.reconnect server now).2.health = c.health := by
  rw [reconnect]
  rcases (server now).connect c.database with ⟨result, database⟩
  cases result with
  | ok generation => rfl
  | error e => rfl

theorem invalidUntil_of_rebuildThen_healthy {next : Instant → Connection σ → Settled σ Health}
    (hnext : ∀ now c, (next now c).result = .healthy →
      (next now c).connection.health.invalidUntil = c.health.invalidUntil)
    (h : (c.rebuildThen server limits next now).result = .healthy) :
    (c.rebuildThen server limits next now).connection.health.invalidUntil =
      c.health.invalidUntil := by
  have hsame := health_reconnect server now c
  rw [rebuildThen] at h ⊢
  generalize c.reconnect server now = rebuilt at h hsame ⊢
  rcases rebuilt with ⟨result, c'⟩
  cases result with
  | ok u => exact (hnext now c' h).trans (congrArg HealthState.invalidUntil hsame)
  | error e => exact absurd h (result_fail_ne_healthy limits now c' e)

theorem invalidUntil_of_probe_healthy (h : (c.probe server limits now).result = .healthy) :
    (c.probe server limits now).connection.health.invalidUntil = c.health.invalidUntil := by
  rw [probe] at h ⊢
  cases hping : (c.ping server limits now).result with
  | ok u => rfl
  | error e =>
    simp only [hping] at h ⊢
    by_cases hclosed : e.isClosed = true
    · rw [if_pos hclosed] at h ⊢
      exact invalidUntil_of_rebuildThen_healthy server limits _ _
        (fun now c ↦ invalidUntil_of_probeOnce_healthy server limits now c) h
    · rw [if_neg hclosed] at h
      exact absurd h (result_fail_ne_healthy limits _ _ e)

/-- A target that passes its check has no backoff behind it. -/
theorem invalidUntil_of_check_healthy (h : (c.check server limits now).result = .healthy) :
    (c.check server limits now).connection.health.invalidUntil = none := by
  cases huntil : c.health.invalidUntil with
  | none =>
    rw [check_of_free server limits huntil] at h ⊢
    exact invalidUntil_of_probe_healthy server limits now c.withoutBackoff h
  | some moment =>
    by_cases hover : moment ≤ now
    · rw [check_of_over server limits huntil hover] at h ⊢
      exact invalidUntil_of_rebuildThen_healthy server limits now c.withoutBackoff
        (fun now c ↦ invalidUntil_of_probe_healthy server limits now c) h
    · rw [check_of_under server limits huntil hover] at h
      cases h

end Telemetry.Connection
