import Telemetry.Definition.Store
import Telemetry.Proofs.Text.Decoded

/-!
# What the definition store does

One statement for each operation of the store, so that what follows never opens them: a check is
silent exactly when every readable source holds what was last seen of it, a load remembers each
source that it could use, and the set that it gives depends on the files alone.

## Problems stay in place

The identities of definitions depend on everything that was loaded before them, but problems do
not. The problems of a load are therefore the concatenation of what each source contributes on
its own (`problems_load`), which is what makes two loads comparable source by source.
-/

namespace Telemetry

namespace DefinitionSet

/-- The problem that a definition as written leaves behind, if it is refused. -/
def refusal? (raw : RawDefinition) : Option String :=
  match Definition.ofRaw raw with
  | .ok _ => none
  | .error e => some e.message

theorem problems_add (set : DefinitionSet) (raw : RawDefinition) :
    (set.add raw).problems = set.problems ++ (refusal? raw).toList := by
  rw [add, refusal?]
  cases Definition.ofRaw raw with
  | ok d => rw [Option.toList_none, List.append_nil]
  | error e => rfl

theorem problems_addAll (set : DefinitionSet) (raws : List RawDefinition) :
    (set.addAll raws).problems = set.problems ++ raws.filterMap refusal? := by
  induction raws generalizing set with
  | nil => rw [addAll, List.foldl_nil, List.filterMap_nil, List.append_nil]
  | cons raw raws ih =>
    rw [addAll, List.foldl_cons, ← addAll, ih, problems_add, List.append_assoc]
    cases h : refusal? raw with
    | none => rw [List.filterMap_cons_none h, Option.toList_none, List.nil_append]
    | some problem =>
      rw [List.filterMap_cons_some h, Option.toList_some, List.singleton_append]

end DefinitionSet

namespace DefinitionStore

variable (fs : Files)

/-! ## Records -/

/-- What a check can read of a source. -/
def readable? (path : String) : Option (List UInt8) := (fs.read path).toOption

/-- What a load can use of a source. -/
def usable? [TomlFaults] (path : String) : Option (List UInt8) :=
  (readSource fs path).toOption.map (·.2)

/-- Where each step writes at most the record of its own source, going through sources writes those
of all of them: a source that comes again is only written the same. -/
theorem lastSeen?_foldl {α : Type} {step : DefinitionStore × α → String → DefinitionStore × α}
    {taken? : String → Option (List UInt8)}
    (hstep : ∀ state path other, (step state path).1.lastSeen? other =
      if path = other then (taken? path).or (state.1.lastSeen? other) else state.1.lastSeen? other)
    (paths : List String) (state : DefinitionStore × α) (other : String) :
    (paths.foldl step state).1.lastSeen? other =
      if other ∈ paths then (taken? other).or (state.1.lastSeen? other)
      else state.1.lastSeen? other := by
  induction paths generalizing state with
  | nil => rw [if_neg List.not_mem_nil, List.foldl_nil]
  | cons path paths ih =>
    rw [List.foldl_cons, ih, hstep]
    by_cases hpath : path = other
    · subst hpath
      rw [if_pos rfl, if_pos List.mem_cons_self, ← Option.or_assoc, Option.or_self, ite_self]
    · simp only [if_neg hpath, List.mem_cons, Ne.symm hpath, false_or]

/-! ## Checking -/

/-- A source that can be read holds what was last seen of it. -/
def UpToDate (store : DefinitionStore) (path : String) : Prop :=
  ∀ content, fs.read path = .ok content → store.lastSeen? path = some content

theorem checkSource_of_upToDate (state : DefinitionStore × Bool) {path : String}
    (h : UpToDate fs state.1 path) : checkSource fs state path = state := by
  rw [checkSource]
  cases hread : fs.read path with
  | error e => rfl
  | ok content => simp only [if_pos (h content hread)]

theorem checkSource_of_not_upToDate (state : DefinitionStore × Bool) {path : String}
    (h : ¬UpToDate fs state.1 path) : (checkSource fs state path).2 = true := by
  rw [checkSource]
  cases hread : fs.read path with
  | error e => exact absurd (fun content hc ↦ by rw [hread] at hc; cases hc) h
  | ok content =>
    have hseen : state.1.lastSeen? path ≠ some content := by
      intro hseen
      refine h fun content' hc ↦ ?_
      rw [hread, Except.ok.injEq] at hc
      rw [hseen, hc]
    simp only [if_neg hseen]

theorem foldl_checkSource_snd_of_changed (paths : List String) (store : DefinitionStore) :
    (paths.foldl (checkSource fs) (store, true)).2 = true := by
  induction paths generalizing store with
  | nil => rfl
  | cons path paths ih =>
    have hstep : (checkSource fs (store, true) path).2 = true := by
      by_cases h : UpToDate fs store path
      · rw [checkSource_of_upToDate fs (store, true) h]
      · exact checkSource_of_not_upToDate fs (store, true) h
    rw [List.foldl_cons, show checkSource fs (store, true) path
      = ((checkSource fs (store, true) path).1, true) from Prod.ext rfl hstep]
    exact ih _

/-- A fold of checks that reports nothing also changes nothing, so that each source is compared
with the same records. -/
theorem foldl_checkSource_eq_iff (paths : List String) (store : DefinitionStore) :
    (paths.foldl (checkSource fs) (store, false)).2 = false ↔
      ∀ path ∈ paths, UpToDate fs store path := by
  induction paths with
  | nil => simp
  | cons path paths ih =>
    rw [List.foldl_cons, List.forall_mem_cons]
    by_cases h : UpToDate fs store path
    · rw [checkSource_of_upToDate fs (store, false) h, ih]
      exact ⟨fun hall ↦ ⟨h, hall⟩, fun hall ↦ hall.2⟩
    · have hstep := checkSource_of_not_upToDate fs (store, false) h
      rw [show checkSource fs (store, false) path
          = ((checkSource fs (store, false) path).1, true) from Prod.ext rfl hstep,
        foldl_checkSource_snd_of_changed]
      exact ⟨fun hfalse ↦ absurd hfalse (by decide), fun hall ↦ absurd hall.1 h⟩

theorem check_snd_eq_false_iff (store : DefinitionStore) :
    (store.check fs).2 = false ↔ ∀ path ∈ store.sources, UpToDate fs store path :=
  foldl_checkSource_eq_iff fs store.sources store

theorem foldl_checkSource_of_upToDate {paths : List String} {store : DefinitionStore}
    (h : ∀ path ∈ paths, UpToDate fs store path) :
    paths.foldl (checkSource fs) (store, false) = (store, false) := by
  induction paths with
  | nil => rfl
  | cons path paths ih =>
    rw [List.forall_mem_cons] at h
    rw [List.foldl_cons, checkSource_of_upToDate fs (store, false) h.1, ih h.2]

theorem check_of_upToDate {store : DefinitionStore}
    (h : ∀ path ∈ store.sources, UpToDate fs store path) : store.check fs = (store, false) :=
  foldl_checkSource_of_upToDate fs h

@[simp]
theorem sources_checkSource (state : DefinitionStore × Bool) (path : String) :
    (checkSource fs state path).1.sources = state.1.sources := by
  rw [checkSource]
  split
  · split <;> rfl
  · rfl

@[simp]
theorem sources_check (store : DefinitionStore) :
    (store.check fs).1.sources = store.sources := by
  have hfold : ∀ (paths : List String) (state : DefinitionStore × Bool),
      (paths.foldl (checkSource fs) state).1.sources = state.1.sources := by
    intro paths
    induction paths with
    | nil => intro state; rfl
    | cons path paths ih =>
      intro state
      rw [List.foldl_cons, ih, sources_checkSource]
  exact hfold _ _

theorem lastSeen?_checkSource (state : DefinitionStore × Bool) (path other : String) :
    (checkSource fs state path).1.lastSeen? other =
      if path = other then (readable? fs path).or (state.1.lastSeen? other)
      else state.1.lastSeen? other := by
  rw [checkSource, readable?]
  cases hread : fs.read path with
  | error e => exact (ite_self _).symm
  | ok content =>
    dsimp only
    split
    · next hseen =>
      -- What is on record already is not written again.
      split
      · next hpath => rw [← hpath, hseen]; rfl
      · rfl
    · exact lastSeen?_remember state.1 path other content

/-- A check writes the record of each source that it can read, and no other. -/
theorem lastSeen?_check_eq (store : DefinitionStore) (path : String) :
    (store.check fs).1.lastSeen? path =
      if path ∈ store.sources then (readable? fs path).or (store.lastSeen? path)
      else store.lastSeen? path :=
  lastSeen?_foldl (lastSeen?_checkSource fs) store.sources (store, false) path

theorem lastSeen?_check {store : DefinitionStore} {path : String} {content : List UInt8}
    (hmem : path ∈ store.sources) (hread : fs.read path = .ok content) :
    (store.check fs).1.lastSeen? path = some content := by
  rw [lastSeen?_check_eq, if_pos hmem, readable?, hread]
  rfl

/-! ## Loading -/

variable [TomlFaults]

/-- Adds what a source holds, or the problem with it. -/
def addSource (set : DefinitionSet) (path : String) : DefinitionSet :=
  match readSource fs path with
  | .ok (raws, _) => set.addAll raws
  | .error problem => set.addProblem (path ++ ": " ++ problem)

/-- The set that a load of these sources gives. It depends on nothing that was seen before. -/
def loadedSet (paths : List String) : DefinitionSet := paths.foldl (addSource fs) .empty

theorem loadSource_snd (state : DefinitionStore × DefinitionSet) (path : String) :
    (loadSource fs state path).2 = addSource fs state.2 path := by
  rw [loadSource, addSource]
  cases readSource fs path <;> rfl

@[simp]
theorem sources_loadSource (state : DefinitionStore × DefinitionSet) (path : String) :
    (loadSource fs state path).1.sources = state.1.sources := by
  rw [loadSource]
  cases readSource fs path <;> rfl

theorem foldl_loadSource_snd (paths : List String) (state : DefinitionStore × DefinitionSet) :
    (paths.foldl (loadSource fs) state).2 = paths.foldl (addSource fs) state.2 := by
  induction paths generalizing state with
  | nil => rfl
  | cons path paths ih => rw [List.foldl_cons, ih, loadSource_snd, List.foldl_cons]

@[simp]
theorem load_snd (store : DefinitionStore) : (store.load fs).2 = loadedSet fs store.sources :=
  foldl_loadSource_snd fs store.sources (store, .empty)

/-- What holds of the empty set, and goes on holding when a definition or a problem is added, holds
of every set that a load gives. -/
theorem load_induction {p : DefinitionSet → Prop} (hempty : p .empty)
    (hadd : ∀ set raw, p set → p (set.add raw))
    (hproblem : ∀ set problem, p set → p (set.addProblem problem)) (store : DefinitionStore) :
    p (store.load fs).2 := by
  have haddAll : ∀ (raws : List RawDefinition) (set : DefinitionSet),
      p set → p (set.addAll raws) := by
    intro raws
    induction raws with
    | nil => exact fun set h ↦ h
    | cons raw raws ih => exact fun set h ↦ ih _ (hadd set raw h)
  have hfold : ∀ (paths : List String) (set : DefinitionSet), p set →
      p (paths.foldl (addSource fs) set) := by
    intro paths
    induction paths with
    | nil => exact fun set h ↦ h
    | cons path paths ih =>
      intro set h
      refine ih _ ?_
      rw [addSource]
      cases readSource fs path with
      | ok held => exact haddAll held.1 set h
      | error problem => exact hproblem set _ h
  rw [load_snd]
  exact hfold store.sources .empty hempty

theorem foldl_loadSource_sources (paths : List String) (state : DefinitionStore × DefinitionSet) :
    (paths.foldl (loadSource fs) state).1.sources = state.1.sources := by
  induction paths generalizing state with
  | nil => rfl
  | cons path paths ih => rw [List.foldl_cons, ih, sources_loadSource]

@[simp]
theorem sources_load (store : DefinitionStore) : (store.load fs).1.sources = store.sources :=
  foldl_loadSource_sources fs store.sources (store, .empty)

theorem lastSeen?_loadSource (state : DefinitionStore × DefinitionSet) (path other : String) :
    (loadSource fs state path).1.lastSeen? other =
      if path = other then (usable? fs path).or (state.1.lastSeen? other)
      else state.1.lastSeen? other := by
  rw [loadSource, usable?]
  cases readSource fs path with
  | error problem => exact (ite_self _).symm
  | ok held => exact lastSeen?_remember state.1 path other held.2

/-- A load writes the record of each source that it can use, and no other. -/
theorem lastSeen?_load_eq (store : DefinitionStore) (path : String) :
    (store.load fs).1.lastSeen? path =
      if path ∈ store.sources then (usable? fs path).or (store.lastSeen? path)
      else store.lastSeen? path :=
  lastSeen?_foldl (lastSeen?_loadSource fs) store.sources (store, .empty) path

theorem lastSeen?_load {store : DefinitionStore} {path : String} {raws : List RawDefinition}
    {content : List UInt8} (hmem : path ∈ store.sources)
    (hread : readSource fs path = .ok (raws, content)) :
    (store.load fs).1.lastSeen? path = some content := by
  rw [lastSeen?_load_eq, if_pos hmem, usable?, hread]
  rfl

theorem read_of_readSource {path : String} {raws : List RawDefinition} {content : List UInt8}
    (h : readSource fs path = .ok (raws, content)) : fs.read path = .ok content := by
  rw [readSource] at h
  split at h
  · cases h
  next content' hread =>
    cases hparse : parse content' with
    | error problem => simp [hparse, Except.map] at h
    | ok raws' =>
      simp only [hparse, Except.map, Except.ok.injEq, Prod.mk.injEq] at h
      rw [hread, h.2]

/-- What a load can use is what a check can read. -/
theorem readable?_of_usable? {path : String} {content : List UInt8}
    (h : usable? fs path = some content) : readable? fs path = some content := by
  rw [usable?] at h
  cases hread : readSource fs path with
  | error problem =>
    rw [hread] at h
    cases h
  | ok held =>
    rw [hread] at h
    obtain rfl := Option.some.inj h
    rw [readable?, read_of_readSource fs hread]
    rfl

/-- What a load does to the record of a source that it can read: it stays, or it becomes what was
read. -/
theorem lastSeen?_load_of_read (store : DefinitionStore) {path : String} {content : List UInt8}
    (hread : fs.read path = .ok content) :
    (store.load fs).1.lastSeen? path = store.lastSeen? path ∨
      (store.load fs).1.lastSeen? path = some content := by
  rw [lastSeen?_load_eq]
  split
  · cases husable : usable? fs path with
    | none => exact .inl rfl
    | some used =>
      have hsame := readable?_of_usable? fs husable
      rw [readable?, hread] at hsame
      exact .inr hsame.symm
  · exact .inl rfl

/-! ### Sources without problems -/

/-- A file of definitions: its text, and what stands in it. -/
structure DefinitionText where
  path : String
  text : String
  raws : List RawDefinition

/-- The file is there. -/
structure DefinitionText.IsIn (source : DefinitionText) (fs : Files) : Prop where
  read : fs.read source.path = .ok (Utf8.encode source.text)
  holds : DefinitionFile.read? source.text = some source.raws

theorem DefinitionText.IsIn.loadSource_eq {source : DefinitionText} {fs : Files}
    (h : source.IsIn fs) (state : DefinitionStore × DefinitionSet) :
    loadSource fs state source.path =
      (state.1.remember source.path (Utf8.encode source.text), state.2.addAll source.raws) := by
  have hparse : parse (Utf8.encode source.text) = .ok source.raws := by
    rw [parse, Utf8.decode_eq_ok_iff.2 rfl]
    simp only [h.holds]
  rw [loadSource, readSource, h.read]
  simp only [hparse, Except.map]

/-- Where every source is a file of definitions, a load remembers all of them, and gives all their
definitions. -/
theorem load_of_isIn {sources : List DefinitionText} {fs : Files}
    (h : ∀ source ∈ sources, source.IsIn fs) {store : DefinitionStore}
    (hstore : store.sources = sources.map (·.path)) :
    store.load fs =
      (sources.foldl
        (fun store source ↦ store.remember source.path (Utf8.encode source.text)) store,
        .ofRaw (sources.flatMap (·.raws))) := by
  have hfold : ∀ state : DefinitionStore × DefinitionSet,
      (sources.map (·.path)).foldl (loadSource fs) state =
        (sources.foldl (fun store source ↦ store.remember source.path (Utf8.encode source.text))
          state.1, state.2.addAll (sources.flatMap (·.raws))) := by
    clear hstore
    induction sources with
    | nil => exact fun state ↦ rfl
    | cons source sources ih =>
      intro state
      rw [List.forall_mem_cons] at h
      rw [List.map_cons, List.foldl_cons, h.1.loadSource_eq, ih h.2, List.foldl_cons,
        List.flatMap_cons, DefinitionSet.addAll, DefinitionSet.addAll, DefinitionSet.addAll,
        List.foldl_append]
  rw [load, hstore, hfold]
  rfl

/-! ## The problems of a load -/

/-- The problems that a source contributes. -/
def problemsOf (path : String) : List String :=
  match readSource fs path with
  | .ok (raws, _) => raws.filterMap DefinitionSet.refusal?
  | .error problem => [path ++ ": " ++ problem]

theorem problems_addSource (set : DefinitionSet) (path : String) :
    (addSource fs set path).problems = set.problems ++ problemsOf fs path := by
  rw [addSource, problemsOf]
  cases readSource fs path with
  | ok held => exact set.problems_addAll held.1
  | error problem => rfl

theorem problems_foldl_addSource (paths : List String) (set : DefinitionSet) :
    (paths.foldl (addSource fs) set).problems = set.problems ++ paths.flatMap (problemsOf fs) := by
  induction paths generalizing set with
  | nil => rw [List.foldl_nil, List.flatMap_nil, List.append_nil]
  | cons path paths ih =>
    rw [List.foldl_cons, ih, problems_addSource, List.append_assoc, List.flatMap_cons]

theorem problems_loadedSet (paths : List String) :
    (loadedSet fs paths).problems = paths.flatMap (problemsOf fs) := by
  rw [loadedSet, problems_foldl_addSource]
  rfl

/-! ## Reloading -/

theorem reload_snd_eq_none_iff (store : DefinitionStore) :
    (store.reload fs false).2 = none ↔ ∀ path ∈ store.sources, UpToDate fs store path := by
  rw [← check_snd_eq_false_iff fs store, reload]
  cases h : (store.check fs).2 <;> simp [h]

/-- A reload that gives no set leaves the store as it was. -/
theorem reload_of_none {store : DefinitionStore} {force : Bool}
    (h : (store.reload fs force).2 = none) : store.reload fs force = (store, none) := by
  rw [reload] at h ⊢
  cases hchanged : (store.check fs).2 with
  | true => simp [hchanged] at h
  | false =>
    rw [check_of_upToDate fs ((check_snd_eq_false_iff fs store).mp hchanged)] at h ⊢
    cases force with
    | true => simp at h
    | false => rfl

/-- A reload that gives a set is a load of the store that remembers what was seen just before. -/
theorem reload_of_some {store : DefinitionStore} {force : Bool} {set : DefinitionSet}
    (h : (store.reload fs force).2 = some set) :
    store.reload fs force = (((store.check fs).1.load fs).1, some set) ∧
      ((store.check fs).1.load fs).2 = set := by
  rw [reload] at h ⊢
  by_cases hload : ((store.check fs).2 || force) = true
  · simp only [hload, if_true] at h ⊢
    rw [Option.some.injEq] at h
    exact ⟨by rw [h], h⟩
  · simp only [hload] at h
    cases h

end DefinitionStore

end Telemetry
