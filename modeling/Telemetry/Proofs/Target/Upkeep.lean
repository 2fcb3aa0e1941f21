import Mathlib.Data.List.Basic
import Telemetry.Proofs.Target.Connection

/-!
# The upkeep of a target

What is done with a connection over time: it is checked and warmed up, in any order and after any
waits. Checks and warm-ups take time too, as long as the database makes them.
-/

namespace Telemetry

/-- Something that is done with a connection after a wait. -/
inductive Upkeep where
  | check (wait : Duration)
  | warmUp (wait : Duration)
  deriving DecidableEq, Repr

/-- A connection at some moment. -/
structure Attended (σ : Type) where
  now : Instant
  connection : Connection σ

/-- An event among those of a run and one more is the last one, or it is among those of the run. -/
theorem Upkeep.concat_eq_split {events earlier later : List Upkeep} {event event' : Upkeep} :
    events ++ [event] = earlier ++ event' :: later ↔
      (events = earlier ∧ event = event' ∧ later = []) ∨
        ∃ rest, later = rest ++ [event] ∧ events = earlier ++ event' :: rest := by
  constructor
  · intro h
    rcases List.eq_nil_or_concat later with rfl | ⟨rest, last, rfl⟩
    · obtain ⟨hevents, hevent⟩ := List.append_inj' h rfl
      exact .inl ⟨hevents, (List.cons.inj hevent).1, rfl⟩
    · rw [List.concat_eq_append, ← List.cons_append, ← List.append_assoc] at h
      obtain ⟨hevents, hevent⟩ := List.append_inj' h rfl
      obtain rfl := (List.cons.inj hevent).1
      exact .inr ⟨rest, List.concat_eq_append, hevents⟩
  · rintro (⟨rfl, rfl, rfl⟩ | ⟨rest, rfl, rfl⟩)
    · rfl
    · rw [List.append_assoc, List.cons_append]

namespace Attended

variable {σ : Type} (server : Clocked σ) (limits : ConnectionLimits)

/-- The connection after a check or a warm-up. -/
def step (x : Attended σ) : Upkeep → Attended σ
  | .check wait =>
    let checked := x.connection.check server limits (x.now.after wait)
    ⟨checked.now, checked.connection⟩
  | .warmUp wait =>
    let warmed := x.connection.warmUp server limits (x.now.after wait)
    ⟨warmed.now, warmed.connection⟩

/-- The connection after all of these. -/
def run (x : Attended σ) (events : List Upkeep) : Attended σ := events.foldl (step server limits) x

theorem run_concat (x : Attended σ) (events : List Upkeep) (event : Upkeep) :
    run server limits x (events ++ [event]) =
      step server limits (run server limits x events) event := by
  rw [run, List.foldl_append]
  rfl

theorem target_step (x : Attended σ) (event : Upkeep) :
    (step server limits x event).connection.target = x.connection.target := by
  cases event with
  | check wait => exact x.connection.target_check server limits _
  | warmUp wait => exact x.connection.target_warmUp server limits _

theorem target_run (x : Attended σ) (events : List Upkeep) :
    (run server limits x events).connection.target = x.connection.target := by
  induction events generalizing x with
  | nil => rfl
  | cons event events ih => exact (ih _).trans (target_step server limits x event)

end Attended

end Telemetry
