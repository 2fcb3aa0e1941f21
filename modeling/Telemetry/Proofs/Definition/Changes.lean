import Mathlib.Logic.Basic
import Telemetry.Proofs.Definition.Store

/-!
# What counts as a change

Whether a check answers that something changed is a matter of records: a source that can be read is
compared with what is on record of it. This file says what is on record after any history of
requests, and that a check gives exactly the answer that the records call for.

## What writes a record

A check records what it can read, a load what it can use, and a reload is a check that a load may
follow. What a load can use is what a check can read, so the load of a reload writes nothing that
its check has not written already, and each request writes one thing at most under a path:
`Call.recorded?`. What is on record is then what the latest call that wrote something has written
(`lastSeen?_after`).

## Why it comes to rest

`Settled` says that every source that can be read is on record as it is. A check settles the store
whether or not something changed, and every request keeps it settled while the files stay as they
are. A settled store has nothing to report, and a source that cannot be read or cannot be used
makes no difference to that.
-/

namespace Telemetry

namespace DefinitionStore

/-! ## Requests -/

/-- What a store is asked to do. -/
inductive Request where
  | check
  | load
  | reload (force : Bool)
  deriving DecidableEq

/-- A request, and the files as they are at that time. -/
structure Call where
  request : Request
  files : Files

section

variable [TomlFaults]

/-- The store after a call. -/
def perform (store : DefinitionStore) (call : Call) : DefinitionStore :=
  match call.request with
  | .check => (store.check call.files).1
  | .load => (store.load call.files).1
  | .reload force => (store.reload call.files force).1

/-- What a call records under a path. -/
def Call.recorded? (sources : List String) (path : String) (call : Call) : Option (List UInt8) :=
  if path ∈ sources then
    match call.request with
    | .load => usable? call.files path
    | .check | .reload _ => readable? call.files path
  else none

/-- The store after some calls, the latest one first. -/
def after (sources : List String) : List Call → DefinitionStore
  | [] => ofSources sources
  | call :: earlier => (after sources earlier).perform call

/-- Reading a source again, in order to use it, gives nothing else. -/
theorem usable?_or_readable? (fs : Files) (path : String) (before : Option (List UInt8)) :
    (usable? fs path).or ((readable? fs path).or before) = (readable? fs path).or before := by
  cases husable : usable? fs path with
  | none => rfl
  | some content => rw [readable?_of_usable? fs husable]; rfl

/-- A reload is a check, with a load behind it or not. -/
theorem reload_fst (store : DefinitionStore) (fs : Files) (force : Bool) :
    (store.reload fs force).1 = (store.check fs).1 ∨
      (store.reload fs force).1 = ((store.check fs).1.load fs).1 := by
  rw [reload]
  dsimp only
  split
  · exact .inr rfl
  · exact .inl rfl

theorem lastSeen?_reload (store : DefinitionStore) (fs : Files) (force : Bool) (path : String) :
    (store.reload fs force).1.lastSeen? path = (store.check fs).1.lastSeen? path := by
  rcases reload_fst store fs force with h | h
  · rw [h]
  · rw [h, lastSeen?_load_eq, sources_check, lastSeen?_check_eq]
    split
    · exact usable?_or_readable? fs path _
    · rfl

@[simp]
theorem sources_perform (store : DefinitionStore) (call : Call) :
    (store.perform call).sources = store.sources := by
  rw [perform]
  cases call.request with
  | check => exact sources_check call.files store
  | load => exact sources_load call.files store
  | reload force =>
    dsimp only
    rcases reload_fst store call.files force with h | h
    · rw [h, sources_check]
    · rw [h, sources_load, sources_check]

theorem sources_after (sources : List String) (history : List Call) :
    (after sources history).sources = sources := by
  induction history with
  | nil => rfl
  | cons call earlier ih => rw [after, sources_perform, ih]

/-- A call leaves a record as it was, where it writes none itself. -/
theorem lastSeen?_perform (store : DefinitionStore) (call : Call) (path : String) :
    (store.perform call).lastSeen? path =
      (call.recorded? store.sources path).or (store.lastSeen? path) := by
  rw [perform, Call.recorded?]
  by_cases hmem : path ∈ store.sources
  · rw [if_pos hmem]
    cases call.request with
    | check => rw [lastSeen?_check_eq, if_pos hmem]
    | load => rw [lastSeen?_load_eq, if_pos hmem]
    | reload force => rw [lastSeen?_reload, lastSeen?_check_eq, if_pos hmem]
  · rw [if_neg hmem]
    cases call.request with
    | check => rw [lastSeen?_check_eq, if_neg hmem]; rfl
    | load => rw [lastSeen?_load_eq, if_neg hmem]; rfl
    | reload force => rw [lastSeen?_reload, lastSeen?_check_eq, if_neg hmem]; rfl

/-- What is on record is what the latest call that wrote something has written. -/
theorem lastSeen?_after (sources : List String) (history : List Call) (path : String) :
    (after sources history).lastSeen? path = history.findSome? (Call.recorded? sources path) := by
  induction history with
  | nil => rfl
  | cons call earlier ih =>
    rw [after, lastSeen?_perform, sources_after, ih, List.findSome?_cons]
    cases call.recorded? sources path <;> rfl

end

/-! ## Coming to rest -/

variable {store : DefinitionStore} {fs : Files}

/-- Every source that can be read is on record as it is. -/
def Settled (store : DefinitionStore) (fs : Files) : Prop :=
  ∀ path ∈ store.sources, UpToDate fs store path

theorem settled_check (store : DefinitionStore) (fs : Files) : (store.check fs).1.Settled fs := by
  intro path hmem content hread
  rw [sources_check] at hmem
  exact lastSeen?_check fs hmem hread

section

variable [TomlFaults]

theorem Settled.load (h : store.Settled fs) : (store.load fs).1.Settled fs := by
  intro path hmem content hread
  rw [sources_load] at hmem
  rcases lastSeen?_load_of_read fs store hread with hkept | hnew
  · exact hkept.trans (h path hmem content hread)
  · exact hnew

theorem settled_reload (store : DefinitionStore) (fs : Files) (force : Bool) :
    (store.reload fs force).1.Settled fs := by
  rcases reload_fst store fs force with h | h
  · exact h ▸ settled_check store fs
  · exact h ▸ (settled_check store fs).load

theorem settled_perform {request : Request} (h : request ≠ .load ∨ store.Settled fs) :
    (store.perform ⟨request, fs⟩).Settled fs := by
  cases request with
  | check => exact settled_check store fs
  | load => exact (h.resolve_left fun hne ↦ hne rfl).load
  | reload force => exact settled_reload store fs force

/-- The store after some requests, the first one first, while the files stay as they are. -/
def performAll (store : DefinitionStore) (fs : Files) (requests : List Request) : DefinitionStore :=
  requests.foldl (fun store request ↦ store.perform ⟨request, fs⟩) store

theorem Settled.performAll (h : store.Settled fs) (requests : List Request) :
    (store.performAll fs requests).Settled fs := by
  induction requests generalizing store with
  | nil => exact h
  | cons request requests ih => exact ih (settled_perform (.inr h))

/-- Nothing is reported, nothing is loaded, and the store stays as it is. -/
structure IsQuiet (store : DefinitionStore) (fs : Files) : Prop where
  check_eq : store.check fs = (store, false)
  reload_eq : store.reload fs false = (store, none)

theorem Settled.isQuiet (h : store.Settled fs) : store.IsQuiet fs :=
  ⟨check_of_upToDate fs h, reload_of_none fs ((reload_snd_eq_none_iff fs store).2 h)⟩

end

/-! ## The answer of a check -/

/-- A source can be read, and what it holds is not what is on record of it. -/
def Differs (store : DefinitionStore) (fs : Files) (path : String) (content : List UInt8) : Prop :=
  path ∈ store.sources ∧ fs.read path = .ok content ∧ store.lastSeen? path ≠ some content

theorem settled_iff : store.Settled fs ↔ ¬∃ path content, store.Differs fs path content := by
  constructor
  · rintro h ⟨path, content, hmem, hread, hne⟩
    exact hne (h path hmem content hread)
  · intro h path hmem content hread
    exact not_not.1 fun hne ↦ h ⟨path, content, hmem, hread, hne⟩

theorem check_snd_iff (store : DefinitionStore) (fs : Files) :
    (store.check fs).2 = true ↔ ∃ path content, store.Differs fs path content := by
  rw [← not_iff_not, ← settled_iff, Bool.not_eq_true]
  exact check_snd_eq_false_iff fs store

theorem lastSeen?_check_of_not_differs {path : String}
    (h : ¬∃ content, store.Differs fs path content) :
    (store.check fs).1.lastSeen? path = store.lastSeen? path := by
  rw [lastSeen?_check_eq]
  split
  · next hmem =>
    cases hread : fs.read path with
    | error e => rw [readable?, hread]; rfl
    | ok content =>
      rw [readable?, hread]
      exact (not_not.1 fun hne ↦ h ⟨content, hmem, hread, hne⟩).symm
  · rfl

section

variable [TomlFaults]

/-- A check answers what the records call for, brings them up to date, and comes to rest. -/
structure DetectsChanges (store : DefinitionStore) (fs : Files) : Prop where
  changed_iff : (store.check fs).2 = true ↔ ∃ path content, store.Differs fs path content
  recorded : ∀ path content, store.Differs fs path content →
    (store.check fs).1.lastSeen? path = some content
  kept : ∀ path, (¬∃ content, store.Differs fs path content) →
    (store.check fs).1.lastSeen? path = store.lastSeen? path
  sources_eq : (store.check fs).1.sources = store.sources
  /-- From the first check on, and whatever is asked for after it. -/
  quiet : ∀ request, request ≠ .load → ∀ requests,
    (store.performAll fs (request :: requests)).IsQuiet fs

theorem detectsChanges (store : DefinitionStore) (fs : Files) : store.DetectsChanges fs where
  changed_iff := check_snd_iff store fs
  recorded _ _ h := lastSeen?_check fs h.1 h.2.1
  kept _ h := lastSeen?_check_of_not_differs h
  sources_eq := sources_check fs store
  quiet _ hrequest requests := ((settled_perform (.inl hrequest)).performAll requests).isQuiet

/-- **Checks are exact and come to rest.** That holds of every store and all files, and what a store
has on record of a path is what the latest call that could read it, or use it, has found there. -/
theorem check_detects_changes :
    (∀ (store : DefinitionStore) (fs : Files), store.DetectsChanges fs) ∧
      ∀ (sources : List String) (history : List Call) (path : String),
        (after sources history).lastSeen? path =
          history.findSome? (Call.recorded? sources path) :=
  ⟨detectsChanges, lastSeen?_after⟩

end

/-- One source stands twice among them, one is missing, and one is no list of definitions. -/
def mixedSources : List String := ["a.toml", "gone.toml", "b.toml", "a.toml"]

/-- The files that there are of these sources. -/
def mixedFiles : Files := (Files.empty.write "a.toml" []).write "b.toml" [0x5B]

/-- A load records the usable file only, so the check behind it reports the other one that can be
read. From then on all is quiet, also when a load is forced in between. -/
theorem check_detects_changes_mixed :
    ((after mixedSources [⟨.load, mixedFiles⟩]).check mixedFiles).2 = true ∧
      (∃ path content,
        (after mixedSources [⟨.load, mixedFiles⟩]).Differs mixedFiles path content) ∧
      ((after mixedSources [⟨.load, mixedFiles⟩]).performAll mixedFiles
        [.check, .reload true]).IsQuiet mixedFiles := by
  have hchanged : ((after mixedSources [⟨.load, mixedFiles⟩]).check mixedFiles).2 = true := by
    decide +kernel
  have hdetects := check_detects_changes.1 (after mixedSources [⟨.load, mixedFiles⟩]) mixedFiles
  exact ⟨hchanged, hdetects.changed_iff.1 hchanged,
    hdetects.quiet .check (by decide) [.reload true]⟩

end DefinitionStore

end Telemetry
