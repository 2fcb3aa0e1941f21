import Telemetry.Error
import Telemetry.Time.Instant

/-!
# Replies

What a database sends back when it is asked for something, and how long it takes. A reply that
does not come before its deadline is a timeout, whatever it would have been.
-/

namespace Telemetry

/-- What a database sends back for a request, and how long it takes. -/
structure Reply (α : Type) where
  delay : Duration
  outcome : Except DbError α

namespace Reply

variable {α : Type}

/-- A reply that comes at once. -/
def atOnce (outcome : Except DbError α) : Reply α := ⟨.zero, outcome⟩

/-- The outcome under a deadline. Timers fire on whole milliseconds, and an answer that arrives
with the deadline still counts. -/
def within (deadline : Duration) (r : Reply α) : Except DbError α :=
  if r.delay.ceilMillis ≤ deadline.ceilMillis then r.outcome else .error (.timeout deadline)

/-- How long the answer or the deadline takes to come. -/
def elapsed (deadline : Duration) (r : Reply α) : Duration :=
  .ofMillis (min r.delay.ceilMillis deadline.ceilMillis)

/-- How long the answer takes to come when there is no deadline. -/
def wait (r : Reply α) : Duration := .ofMillis r.delay.ceilMillis

@[simp]
theorem within_atOnce (deadline : Duration) (outcome : Except DbError α) :
    (atOnce outcome).within deadline = outcome := by
  have hnow : Duration.zero.ceilMillis = 0 := rfl
  rw [within, if_pos]
  · rfl
  · change Duration.zero.ceilMillis ≤ deadline.ceilMillis
    rw [hnow]
    exact Nat.zero_le _

@[simp]
theorem elapsed_atOnce (deadline : Duration) (outcome : Except DbError α) :
    (atOnce outcome).elapsed deadline = .zero := by
  have hnow : Duration.zero.ceilMillis = 0 := rfl
  rw [elapsed, atOnce, hnow, Nat.zero_min]
  rfl

end Reply

end Telemetry
