import Mathlib.Data.List.Basic
import Telemetry.Tick

/-!
# What a tick publishes and keeps

The contributions of the targets are put together into one snapshot and into the cache. A
computation either succeeds, and is published and kept, or fails, and is counted. So the snapshot
holds what the contributions publish, one after the other (`observations_aggregate`), with the
number of their failures (`errors_aggregate`), and the cache is written with what they have to be
kept (`records_aggregate`).
-/

namespace Telemetry

/-- The observations of a computation that succeeded. No rows count as success, and as no
observations, where the definition tolerates them. -/
def Computation.success? (k : Computation) : Option (List Observation) :=
  match k.result with
  | .ok observations => some observations
  | .error e => if e = .zeroResult ∧ k.definition.ignoreZeroResult = true then some [] else none

/-- The observations of a computation that are published. -/
def Computation.observations (k : Computation) : List Observation :=
  match k.result with
  | .ok observations => observations
  | .error _ => []

/-- A computation failed, and this is reported. -/
def Computation.isFailure (k : Computation) : Bool := k.success?.isNone

theorem Computation.observations_eq (k : Computation) : k.observations = k.success?.getD [] := by
  rw [Computation.observations, Computation.success?]
  cases k.result with
  | ok observations => rfl
  | error e =>
    dsimp only
    split
    · rfl
    · rfl

namespace Contribution

/-- What is published of a contribution: whether the target is up, what the cache served, and what
was computed. -/
def observations (namespaceName : String) (c : Contribution) : List Observation :=
  Tick.upObservation namespaceName c.target c.up ::
    (c.cached.flatten ++ c.fresh.flatMap Computation.observations)

/-- What is to be kept of a contribution to a tick that began at `started`. -/
def records (started : Instant) (c : Contribution) :
    List ((String × String) × CacheRecord) :=
  c.fresh.filterMap fun k ↦
    k.success?.map fun observations ↦ ((c.target.name, k.definition.id), ⟨observations, started⟩)

theorem mem_records {started : Instant} {c : Contribution} {key : String × String}
    {record : CacheRecord} : (key, record) ∈ c.records started ↔
      ∃ k ∈ c.fresh, ∃ observations, k.success? = some observations ∧
        (c.target.name, k.definition.id) = key ∧ ⟨observations, started⟩ = record := by
  rw [records, List.mem_filterMap]
  refine exists_congr fun k ↦ and_congr_right fun _ ↦ ?_
  rw [Option.map_eq_some_iff]
  simp only [Prod.mk.injEq]

theorem fst_of_mem_keys_records {started : Instant} {c : Contribution} {key : String × String}
    (h : key ∈ (c.records started).map (·.1)) : key.1 = c.target.name := by
  obtain ⟨⟨key, record⟩, hmem, rfl⟩ := List.mem_map.1 h
  obtain ⟨k, -, observations, -, rfl, -⟩ := mem_records.1 hmem
  rfl

theorem keys_records_sublist (started : Instant) (c : Contribution) :
    ((c.records started).map (·.1)).Sublist
      (c.fresh.map fun k ↦ (c.target.name, k.definition.id)) := by
  rw [records]
  induction c.fresh with
  | nil => exact List.nil_sublist _
  | cons k fresh ih =>
    cases hsuccess : k.success? with
    | none =>
      rw [List.filterMap_cons_none (by rw [hsuccess]; rfl)]
      exact ih.cons _
    | some observations =>
      rw [List.filterMap_cons_some (by rw [hsuccess]; rfl)]
      exact ih.cons_cons _

end Contribution

namespace Tick

variable (namespaceName : String) (started : Instant)

/-- What succeeded is published and kept. -/
theorem addComputation_of_success {k : Computation} {observations : List Observation}
    (h : k.success? = some observations) (target : Target) (a : Account) :
    a.addComputation namespaceName target started k =
      { a.publish observations with
        cache := a.cache.record target.name k.definition observations started } := by
  rw [Computation.success?] at h
  rw [Account.addComputation]
  cases hresult : k.result with
  | ok observations' =>
    rw [hresult] at h
    obtain rfl := Option.some.inj h
    rfl
  | error e =>
    simp only [hresult] at h
    by_cases htolerated : e = .zeroResult ∧ k.definition.ignoreZeroResult = true
    · rw [if_pos htolerated] at h
      obtain rfl := Option.some.inj h
      -- The absence of rows, where it is tolerated, is kept like any other result.
      obtain ⟨rfl, htolerates⟩ := htolerated
      have hreport :
          ScrapeError.shouldReport .zeroResult k.definition.ignoreZeroResult = false := by
        rw [htolerates]
        rfl
      simp [hreport, Account.publish]
    · rw [if_neg htolerated] at h
      cases h

/-- What failed is counted, and changes nothing else but the meters. -/
theorem addComputation_of_failure {k : Computation} (h : k.success? = none) (target : Target)
    (a : Account) :
    a.addComputation namespaceName target started k =
      a.countError namespaceName k.definition.context := by
  rw [Computation.success?] at h
  rw [Account.addComputation]
  cases hresult : k.result with
  | ok observations =>
    rw [hresult] at h
    cases h
  | error e =>
    simp only [hresult] at h
    by_cases htolerated : e = .zeroResult ∧ k.definition.ignoreZeroResult = true
    · rw [if_pos htolerated] at h
      cases h
    · -- Only the absence of rows is tolerated, so everything else is reported.
      have hreport : e.shouldReport k.definition.ignoreZeroResult = true := by
        rw [ScrapeError.shouldReport, Bool.not_eq_true', Bool.and_eq_false_iff]
        rcases not_and_or.1 htolerated with hother | hstrict
        · exact .inr (beq_eq_false_iff_ne.2 hother)
        · exact .inl (Bool.eq_false_iff.2 hstrict)
      exact if_pos hreport

theorem observations_addComputation (target : Target) (a : Account) (k : Computation) :
    (a.addComputation namespaceName target started k).snapshot.observations =
      a.snapshot.observations ++ k.observations := by
  rw [k.observations_eq]
  cases hsuccess : k.success? with
  | none =>
    rw [addComputation_of_failure namespaceName started hsuccess]
    exact (List.append_nil _).symm
  | some observations =>
    rw [addComputation_of_success namespaceName started hsuccess]
    rfl

theorem errors_addComputation (target : Target) (a : Account) (k : Computation) :
    (a.addComputation namespaceName target started k).snapshot.errors =
      a.snapshot.errors + if k.isFailure then 1 else 0 := by
  rw [Computation.isFailure]
  cases hsuccess : k.success? with
  | none => rw [addComputation_of_failure namespaceName started hsuccess]; rfl
  | some observations => rw [addComputation_of_success namespaceName started hsuccess]; rfl

theorem records_foldl_addComputation (target : Target) (a : Account) (fresh : List Computation) :
    (fresh.foldl (Account.addComputation namespaceName target started) a).cache.records =
      Keyed.putAll a.cache.records (fresh.filterMap fun k ↦ k.success?.map fun observations ↦
        ((target.name, k.definition.id), ⟨observations, started⟩)) := by
  induction fresh generalizing a with
  | nil => rfl
  | cons k fresh ih =>
    rw [List.foldl_cons, ih]
    cases hsuccess : k.success? with
    | none =>
      rw [addComputation_of_failure namespaceName started hsuccess,
        List.filterMap_cons_none (by rw [hsuccess]; rfl)]
      rfl
    | some observations =>
      rw [addComputation_of_success namespaceName started hsuccess,
        List.filterMap_cons_some (by rw [hsuccess]; rfl)]
      rfl

/-- The cache is written with what is to be kept of a contribution. -/
theorem records_addContribution (a : Account) (c : Contribution) :
    (a.addContribution namespaceName started c).cache.records =
      Keyed.putAll a.cache.records (c.records started) :=
  records_foldl_addComputation namespaceName started c.target _ c.fresh

theorem observations_foldl_addComputation (target : Target) (a : Account)
    (fresh : List Computation) :
    (fresh.foldl (Account.addComputation namespaceName target started) a).snapshot.observations =
      a.snapshot.observations ++ fresh.flatMap Computation.observations := by
  induction fresh generalizing a with
  | nil => exact (List.append_nil _).symm
  | cons k fresh ih =>
    rw [List.foldl_cons, ih, observations_addComputation, List.flatMap_cons, List.append_assoc]

/-- The observations of a contribution stand behind those before it. -/
theorem observations_addContribution (a : Account) (c : Contribution) :
    (a.addContribution namespaceName started c).snapshot.observations =
      a.snapshot.observations ++ c.observations namespaceName := by
  rw [Account.addContribution, observations_foldl_addComputation]
  simp [Account.publish, Contribution.observations]

theorem errors_foldl_addComputation (target : Target) (a : Account) (fresh : List Computation) :
    (fresh.foldl (Account.addComputation namespaceName target started) a).snapshot.errors =
      a.snapshot.errors + fresh.countP Computation.isFailure := by
  induction fresh generalizing a with
  | nil => rfl
  | cons k fresh ih =>
    rw [List.foldl_cons, ih, errors_addComputation, List.countP_cons, Nat.add_assoc,
      Nat.add_comm (List.countP _ _)]

/-- The failures of a contribution are counted with those before it. -/
theorem errors_addContribution (a : Account) (c : Contribution) :
    (a.addContribution namespaceName started c).snapshot.errors =
      a.snapshot.errors + c.fresh.countP Computation.isFailure :=
  errors_foldl_addComputation namespaceName started c.target _ c.fresh

/-- The cache is written with what is to be kept of all contributions. -/
theorem records_aggregate (a : Account) (contributions : List Contribution) :
    (aggregate namespaceName started a contributions).cache.records =
      Keyed.putAll a.cache.records (contributions.flatMap (·.records started)) := by
  induction contributions generalizing a with
  | nil => rfl
  | cons c contributions ih =>
    rw [aggregate, List.foldl_cons, ← aggregate, ih, records_addContribution, List.flatMap_cons,
      Keyed.putAll, Keyed.putAll, Keyed.putAll, List.foldl_append]

/-- The snapshot holds what the contributions publish. -/
theorem observations_aggregate (a : Account) (contributions : List Contribution) :
    (aggregate namespaceName started a contributions).snapshot.observations =
      a.snapshot.observations ++ contributions.flatMap (·.observations namespaceName) := by
  induction contributions generalizing a with
  | nil => exact (List.append_nil _).symm
  | cons c contributions ih =>
    rw [aggregate, List.foldl_cons, ← aggregate, ih, observations_addContribution,
      List.flatMap_cons, List.append_assoc]

/-- The errors of the snapshot are the failures of all contributions. -/
theorem errors_aggregate (a : Account) (contributions : List Contribution) :
    (aggregate namespaceName started a contributions).snapshot.errors =
      a.snapshot.errors +
        (contributions.flatMap (·.fresh)).countP Computation.isFailure := by
  induction contributions generalizing a with
  | nil => rfl
  | cons c contributions ih =>
    rw [aggregate, List.foldl_cons, ← aggregate, ih, errors_addContribution, List.flatMap_cons,
      List.countP_append, Nat.add_assoc]

end Tick

end Telemetry
