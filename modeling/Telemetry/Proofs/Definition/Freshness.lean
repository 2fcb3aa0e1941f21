import Mathlib.Algebra.Order.BigOperators.Group.List
import Mathlib.Algebra.Order.Group.Nat
import Mathlib.Data.List.Basic
import Telemetry.Proofs.Definition.Problems

/-!
# What a silent reload says about the set in force

The exporter loads its definitions again only when a source differs from what was last seen of it.
A reload that stays silent should therefore mean that the set in force is the one that a load
would give now. This file says exactly when it does.

## Two records that drift apart

What was last seen of a source and the set in force are written by different operations. A check
remembers every content that it can read, a load only those that it can use, and neither forgets
anything. So the set in force can lack a source of which an older content is still remembered:
when that content comes back, every source agrees with its record, and the reload stays silent
although the source is missing from the set.

`Represented` is the condition that rules this out, for one source: the last load could read it,
and what it read there means the same as what is remembered. `inForce_eq_load_iff` says that it is
not only sufficient. A source that is not represented left a problem in the set in force, and the
set of a load now has no such problem: `ProblemOrigin` tells the problem of an unreadable source
from everything that readable sources leave behind.
-/

namespace Telemetry

/-! ## Comparing two loads source by source -/

/-- Two concatenations with the same result have the same parts, as soon as no part of the second
is longer than its counterpart. -/
theorem eq_of_flatMap_eq {α β : Type} {f g : α → List β} {l : List α}
    (h : l.flatMap f = l.flatMap g) (hlen : ∀ x ∈ l, (g x).length ≤ (f x).length) :
    ∀ x ∈ l, f x = g x := by
  induction l with
  | nil => exact fun x hx ↦ absurd hx List.not_mem_nil
  | cons a l ih =>
    rw [List.forall_mem_cons] at hlen
    rw [List.flatMap_cons, List.flatMap_cons] at h
    have hrest : (l.flatMap g).length ≤ (l.flatMap f).length := by
      rw [List.length_flatMap, List.length_flatMap]
      exact List.sum_le_sum hlen.2
    have htotal := congrArg List.length h
    rw [List.length_append, List.length_append] at htotal
    have hparts := List.append_inj h (by have := hlen.1; omega)
    rw [List.forall_mem_cons]
    exact ⟨hparts.1, ih hparts.2 hlen.2⟩

namespace DefinitionStore

section

variable [TomlFaults]

/-- What a source holds, or why it holds nothing. -/
def reading (fs : Files) (path : String) : Except String (List RawDefinition) :=
  (readSource fs path).map (·.1)

theorem reading_of_read_ok {fs : Files} {path : String} {content : List UInt8}
    (h : fs.read path = .ok content) : reading fs path = parse content := by
  rw [reading, readSource, h]
  cases hparse : parse content <;> simp [hparse, Except.map]

theorem reading_of_read_error {fs : Files} {path : String} {e : FileError}
    (h : fs.read path = .error e) : reading fs path = .error e.message := by
  rw [reading, readSource, h]
  rfl

theorem readSource_of_reading_ok {fs : Files} {path : String} {raws : List RawDefinition}
    (h : reading fs path = .ok raws) :
    ∃ content, fs.read path = .ok content ∧ readSource fs path = .ok (raws, content) := by
  cases hread : fs.read path with
  | error e =>
    rw [reading_of_read_error hread] at h
    cases h
  | ok content =>
    rw [reading_of_read_ok hread] at h
    refine ⟨content, rfl, ?_⟩
    rw [readSource, hread]
    simp only [h]
    rfl

theorem addSource_congr {fs fs' : Files} {path : String} (h : reading fs path = reading fs' path)
    (set : DefinitionSet) : addSource fs set path = addSource fs' set path := by
  rw [reading, reading] at h
  rw [addSource, addSource]
  cases hfirst : readSource fs path <;> cases hsecond : readSource fs' path <;>
    simp_all [Except.map]

theorem loadedSet_congr {fs fs' : Files} {paths : List String}
    (h : ∀ path ∈ paths, reading fs path = reading fs' path) :
    loadedSet fs paths = loadedSet fs' paths :=
  List.foldl_ext _ _ _ fun set path hpath ↦ addSource_congr (h path hpath) set

/-- The problem with a source as a whole. -/
def sourceProblem (fs : Files) (path : String) : List String :=
  match reading fs path with
  | .ok _ => []
  | .error problem => [path ++ ": " ++ problem]

theorem ofProblem_reading (fs : Files) (path : String) {problem : String}
    (h : reading fs path = .error problem) :
    ProblemOrigin.ofProblem (path ++ ": " ++ problem) ≠ .definition := by
  cases hread : fs.read path with
  | error e =>
    rw [reading_of_read_error hread, Except.error.injEq] at h
    rw [← h, ProblemOrigin.ofProblem_file]
    decide
  | ok content =>
    rw [reading_of_read_ok hread] at h
    rw [ProblemOrigin.ofProblem_content path h]
    decide

/-- Without the problems with single definitions, the problems of a source are the one with the
source itself. -/
theorem filter_problemsOf (fs : Files) (path : String) :
    (problemsOf fs path).filter (ProblemOrigin.ofProblem · ≠ .definition)
      = sourceProblem fs path := by
  rw [problemsOf, sourceProblem]
  cases hread : readSource fs path with
  | ok held =>
    have hreading : reading fs path = .ok held.1 := by rw [reading, hread]; rfl
    simp only [hreading]
    rw [List.filter_eq_nil_iff]
    intro problem hproblem
    rw [List.mem_filterMap] at hproblem
    obtain ⟨raw, -, hraw⟩ := hproblem
    simp [ProblemOrigin.ofProblem_of_refusal? hraw]
  | error problem =>
    have hreading : reading fs path = .error problem := by rw [reading, hread]; rfl
    simp only [hreading]
    exact List.filter_cons_of_pos (by simp [ofProblem_reading fs path hreading])

theorem flatMap_sourceProblem_eq {fs fs' : Files} {paths : List String}
    (h : loadedSet fs paths = loadedSet fs' paths) :
    paths.flatMap (sourceProblem fs) = paths.flatMap (sourceProblem fs') := by
  have hproblems := congrArg DefinitionSet.problems h
  rw [problems_loadedSet, problems_loadedSet] at hproblems
  have hfilter := congrArg (List.filter (ProblemOrigin.ofProblem · ≠ .definition)) hproblems
  rw [List.filter_flatMap, List.filter_flatMap] at hfilter
  simpa only [filter_problemsOf] using hfilter

end

/-! ## Histories of a store -/

/-- What happens to a store and to the files around it. -/
inductive Event where
  /-- Files are written, removed or made again. -/
  | change (edit : Files → Files)
  | load
  | reload (force : Bool)

/-- A store in use. -/
structure History where
  files : Files
  store : DefinitionStore
  /-- The set of the last load, with the files as they were then. -/
  inForce : Option (DefinitionSet × Files)

namespace History

/-- Nothing was loaded yet. -/
def start (sources : List String) (files : Files) : History := ⟨files, .ofSources sources, none⟩

/-- Takes over the result of a reload. -/
def install (h : History) : DefinitionStore × Option DefinitionSet → History
  | (store, some set) => { h with store := store, inForce := some (set, h.files) }
  | (store, none) => { h with store := store }

section

variable [TomlFaults]

def step (h : History) : Event → History
  | .change edit => { h with files := edit h.files }
  | .load => h.install ((h.store.load h.files).1, some (h.store.load h.files).2)
  | .reload force => h.install (h.store.reload h.files force)

def run (h : History) (events : List Event) : History := events.foldl step h

/-- The invariant: the set in force is the load of the files as they were then, and the record of
each source that this load could use is what it used. -/
structure Sound (sources : List String) (h : History) : Prop where
  sources_eq : h.store.sources = sources
  set_eq : ∀ {set loadedFrom}, h.inForce = some (set, loadedFrom) →
    set = loadedSet loadedFrom sources
  seen_eq : ∀ {set loadedFrom path raws content}, h.inForce = some (set, loadedFrom) →
    path ∈ sources → readSource loadedFrom path = .ok (raws, content) →
    h.store.lastSeen? path = some content

theorem sound_start (sources : List String) (files : Files) : Sound sources (start sources files) :=
  ⟨rfl, fun h ↦ (Option.some_ne_none _ h.symm).elim,
    fun h ↦ (Option.some_ne_none _ h.symm).elim⟩

/-- A load establishes the invariant, whatever was remembered before it. -/
theorem sound_install_load {sources : List String} (h : History) {store : DefinitionStore}
    (hstore : store.sources = sources) :
    Sound sources (h.install ((store.load h.files).1, some (store.load h.files).2)) := by
  subst hstore
  refine ⟨sources_load h.files store, ?_, ?_⟩
  · intro set loadedFrom hforce
    rw [install, Option.some.injEq, Prod.mk.injEq] at hforce
    rw [← hforce.1, ← hforce.2, load_snd]
  · intro set loadedFrom path raws content hforce hmem hread
    rw [install, Option.some.injEq, Prod.mk.injEq] at hforce
    rw [← hforce.2] at hread
    exact lastSeen?_load h.files hmem hread

theorem Sound.step {sources : List String} {h : History} (hs : Sound sources h) (event : Event) :
    Sound sources (h.step event) := by
  cases event with
  | change edit => exact ⟨hs.sources_eq, hs.set_eq, hs.seen_eq⟩
  | load => exact sound_install_load h hs.sources_eq
  | reload force =>
    rw [History.step]
    cases hset : (h.store.reload h.files force).2 with
    | none =>
      -- Nothing changed, so nothing was remembered anew either.
      rw [reload_of_none h.files hset]
      exact hs
    | some set =>
      obtain ⟨hreload, rfl⟩ := reload_of_some h.files hset
      rw [hreload]
      exact sound_install_load h ((sources_check h.files h.store).trans hs.sources_eq)

theorem Sound.run {sources : List String} {h : History} (hs : Sound sources h)
    (events : List Event) : Sound sources (h.run events) := by
  induction events generalizing h with
  | nil => exact hs
  | cons event events ih => exact ih (hs.step event)

/-! ## The set in force -/

/-- The last load could read the source, and what it read there means the same as what is
remembered of the source. -/
def Represented (store : DefinitionStore) (loadedFrom : Files) (path : String) : Prop :=
  ∃ content seen, loadedFrom.read path = .ok content ∧ store.lastSeen? path = some seen ∧
    parse content = parse seen

/-- A source that a load could use is represented by it. -/
theorem Sound.represented_of_ok {sources : List String} {h : History} (hs : Sound sources h)
    {set : DefinitionSet} {loadedFrom : Files} (hforce : h.inForce = some (set, loadedFrom))
    {path : String} (hmem : path ∈ sources) {raws : List RawDefinition}
    (hreading : reading loadedFrom path = .ok raws) : Represented h.store loadedFrom path := by
  obtain ⟨content, hcontent, hread⟩ := readSource_of_reading_ok hreading
  exact ⟨content, content, hcontent, hs.seen_eq hforce hmem hread, rfl⟩

/-- When the reload is silent, every readable source holds what is remembered of it. -/
theorem Sound.lastSeen?_of_silent {sources : List String} {h : History} (hs : Sound sources h)
    (hsilent : (h.store.reload h.files false).2 = none) {path : String} (hmem : path ∈ sources)
    {content : List UInt8} (hread : h.files.read path = .ok content) :
    h.store.lastSeen? path = some content := by
  rw [reload_snd_eq_none_iff, hs.sources_eq] at hsilent
  exact hsilent path hmem content hread

/-- A represented source reads now as it did in the last load. -/
theorem Represented.reading_eq {h : History} {loadedFrom : Files} {path : String}
    {current : List UInt8} (hr : Represented h.store loadedFrom path)
    (hread : h.files.read path = .ok current) (hseen : h.store.lastSeen? path = some current) :
    reading loadedFrom path = reading h.files path := by
  obtain ⟨content, seen, hcontent, hlast, hparse⟩ := hr
  rw [hseen, Option.some.injEq] at hlast
  rw [reading_of_read_ok hcontent, reading_of_read_ok hread, hparse, hlast]

/-- A source that reads as an error in the last load and as the same error now is represented: a
source that can be read never has the problem of one that cannot. -/
theorem represented_of_problem_eq {store : DefinitionStore} {loadedFrom : Files} {path : String}
    {current : List UInt8} {problem problem' : String}
    (hseen : store.lastSeen? path = some current)
    (hthen : reading loadedFrom path = .error problem) (hparse : parse current = .error problem')
    (hproblem : path ++ ": " ++ problem = path ++ ": " ++ problem') :
    Represented store loadedFrom path := by
  cases hloaded : loadedFrom.read path with
  | error e =>
    -- The texts of problems tell a source that cannot be read from one that can.
    rw [reading_of_read_error hloaded, Except.error.injEq] at hthen
    have horigin := ProblemOrigin.ofProblem_file path e
    rw [hthen, hproblem, ProblemOrigin.ofProblem_content path hparse] at horigin
    cases horigin
  | ok content =>
    refine ⟨content, current, hloaded, hseen, ?_⟩
    rw [← reading_of_read_ok hloaded, hthen, hparse]
    exact congrArg _ ((String.append_right_inj _).mp hproblem)

/-- The characterisation for every state that satisfies the invariant. -/
theorem Sound.eq_load_iff {sources : List String} {h : History} (hs : Sound sources h)
    {set : DefinitionSet} {loadedFrom : Files} (hforce : h.inForce = some (set, loadedFrom))
    (hsilent : (h.store.reload h.files false).2 = none)
    (hread : ∀ path ∈ sources, ∃ content, h.files.read path = .ok content) :
    set = (h.store.load h.files).2 ↔
      ∀ path ∈ sources, Represented h.store loadedFrom path := by
  rw [load_snd, hs.sources_eq, hs.set_eq hforce]
  constructor
  · intro hsets path hmem
    -- A source that was usable in the last load has no problem in either load, and any other has
    -- one then, so the problems of both loads belong to the same sources one by one.
    have hlen : ∀ path ∈ sources,
        (sourceProblem h.files path).length ≤ (sourceProblem loadedFrom path).length := by
      intro path hmem
      obtain ⟨current, hcurrent⟩ := hread path hmem
      cases hthen : reading loadedFrom path with
      | ok raws =>
        have hnow := (hs.represented_of_ok hforce hmem hthen).reading_eq hcurrent
          (hs.lastSeen?_of_silent hsilent hmem hcurrent)
        rw [sourceProblem, sourceProblem, ← hnow]
      | error problem =>
        rw [sourceProblem, sourceProblem, hthen]
        cases reading h.files path <;> simp
    have hproblem := eq_of_flatMap_eq (flatMap_sourceProblem_eq hsets) hlen path hmem
    obtain ⟨current, hcurrent⟩ := hread path hmem
    have hseen := hs.lastSeen?_of_silent hsilent hmem hcurrent
    cases hthen : reading loadedFrom path with
    | ok raws => exact hs.represented_of_ok hforce hmem hthen
    | error problem =>
      rw [sourceProblem, sourceProblem, hthen, reading_of_read_ok hcurrent] at hproblem
      cases hparse : parse current with
      | ok raws => simp [hparse] at hproblem
      | error problem' =>
        simp only [hparse, List.cons.injEq, and_true] at hproblem
        exact represented_of_problem_eq hseen hthen hparse hproblem
  · intro hall
    refine loadedSet_congr fun path hmem ↦ ?_
    obtain ⟨current, hcurrent⟩ := hread path hmem
    exact (hall path hmem).reading_eq hcurrent (hs.lastSeen?_of_silent hsilent hmem hcurrent)

/-- **The set in force after a silent reload.** While every source can be read, a reload that
stays silent leaves the set that a load would give now in force if and only if each source is
represented in it. -/
theorem inForce_eq_load_iff (sources : List String) (files : Files) (events : List Event)
    {h : History} (hrun : (start sources files).run events = h)
    {set : DefinitionSet} {loadedFrom : Files} (hforce : h.inForce = some (set, loadedFrom))
    (hsilent : (h.store.reload h.files false).2 = none)
    (hread : ∀ path ∈ sources, ∃ content, h.files.read path = .ok content) :
    set = (h.store.load h.files).2 ↔
      ∀ path ∈ sources, Represented h.store loadedFrom path :=
  Sound.eq_load_iff (hrun ▸ (sound_start sources files).run events) hforce hsilent hread

end

/-! ### The set that goes stale

A definition file is there when the definitions are loaded, is gone when a reload is forced, and
comes back as it was. Nothing differs from what was last seen of it, so the next reload is silent,
but the set in force still lacks its definition. -/

/-- A file with one definition. -/
def sessionsFile : List UInt8 :=
  Utf8.encode "[[metric]]\ncontext = \"c\"\nmetricsdesc.v = \"\"\nrequest = \"q\"\n"

/-- A file that is gone during one of two loads. -/
def afterReturn (force : Bool) : History :=
  (start ["a.toml"] (Files.empty.write "a.toml" sessionsFile)).run
    [.load, .change (·.remove "a.toml"), .reload force,
      .change (·.write "a.toml" sessionsFile)]

/-- Without a forced reload in between, the set in force stays the one that had the file. -/
theorem inForce_eq_load_iff_afterReturn :
    ∃ set loadedFrom, (afterReturn false).inForce = some (set, loadedFrom) ∧
      ((afterReturn false).store.reload (afterReturn false).files false).2 = none ∧
      (afterReturn false).files.read "a.toml" = .ok sessionsFile ∧
      (set = ((afterReturn false).store.load (afterReturn false).files).2 ↔
        ∀ path ∈ ["a.toml"], Represented (afterReturn false).store loadedFrom path) := by
  have hsome : (afterReturn false).inForce.isSome = true := by decide +kernel
  obtain ⟨⟨set, loadedFrom⟩, hforce⟩ := Option.isSome_iff_exists.mp hsome
  have hsilent : ((afterReturn false).store.reload (afterReturn false).files false).2 = none := by
    decide +kernel
  have hread : (afterReturn false).files.read "a.toml" = .ok sessionsFile := by decide +kernel
  refine ⟨set, loadedFrom, hforce, hsilent, hread, ?_⟩
  refine inForce_eq_load_iff ["a.toml"] _ _ rfl hforce hsilent fun path hpath ↦ ?_
  rw [List.mem_singleton.mp hpath]
  exact ⟨sessionsFile, hread⟩

/-- A silent reload, with every source readable, and a set in force that a load would not give. -/
theorem inForce_ne_load_afterReturn :
    ((afterReturn true).store.reload (afterReturn true).files false).2 = none ∧
      (afterReturn true).files.read "a.toml" = .ok sessionsFile ∧
      (afterReturn true).inForce.isSome = true ∧
      (afterReturn true).inForce.map (·.1)
        ≠ some ((afterReturn true).store.load (afterReturn true).files).2 := by
  decide +kernel

/-! ### One load, then reloads

This is how the exporter uses its store. A record then never lags behind what a load could read,
because each reload checks before it loads, so that being readable is all that matters. -/

/-- The record of a source that the last load could read is what it read, or there is none. -/
def Recorded (sources : List String) (h : History) : Prop :=
  ∀ set loadedFrom path content, h.inForce = some (set, loadedFrom) → path ∈ sources →
    loadedFrom.read path = .ok content →
    h.store.lastSeen? path = some content ∨ h.store.lastSeen? path = none

variable [TomlFaults]

theorem recorded_load (sources : List String) (files : Files) :
    Recorded sources ((start sources files).step .load) := by
  intro set loadedFrom path content hforce hmem hread
  rw [step, install, Option.some.injEq, Prod.mk.injEq] at hforce
  rw [← hforce.2] at hread
  rcases lastSeen?_load_of_read files (start sources files).store hread with h | h
  · exact Or.inr h
  · exact Or.inl h

theorem Recorded.step {sources : List String} {h : History} (hr : Recorded sources h)
    (hs : Sound sources h) {event : Event} (hevent : event ≠ .load) :
    Recorded sources (h.step event) := by
  cases event with
  | change edit => exact hr
  | load => exact absurd rfl hevent
  | reload force =>
    rw [History.step]
    cases hset : (h.store.reload h.files force).2 with
    | none =>
      rw [reload_of_none h.files hset]
      exact hr
    | some set =>
      obtain ⟨hreload, rfl⟩ := reload_of_some h.files hset
      rw [hreload]
      intro set loadedFrom path content hforce hmem hread
      rw [install, Option.some.injEq, Prod.mk.injEq] at hforce
      rw [← hforce.2] at hread
      -- The check before the load records what it read, so the load finds that record or renews it.
      have hcheck := lastSeen?_check h.files (hs.sources_eq.symm ▸ hmem) hread
      rcases lastSeen?_load_of_read h.files (h.store.check h.files).1 hread with hl | hl
      · exact Or.inl (hl.trans hcheck)
      · exact Or.inl hl

theorem Recorded.run {sources : List String} {h : History} (hr : Recorded sources h)
    (hs : Sound sources h) {events : List Event} (honly : Event.load ∉ events) :
    Recorded sources (h.run events) := by
  induction events generalizing h with
  | nil => exact hr
  | cons event events ih =>
    rw [List.mem_cons, not_or] at honly
    exact ih (hr.step hs (Ne.symm honly.1)) (hs.step event) honly.2

/-- After one load and any number of reloads, a silent reload leaves the set that a load would
give now in force if and only if the last load could read every source. -/
theorem inForce_eq_load_iff_readable (sources : List String) (files : Files)
    (events : List Event) (honly : Event.load ∉ events)
    {h : History} (hrun : (start sources files).run (.load :: events) = h)
    {set : DefinitionSet} {loadedFrom : Files} (hforce : h.inForce = some (set, loadedFrom))
    (hsilent : (h.store.reload h.files false).2 = none)
    (hread : ∀ path ∈ sources, ∃ content, h.files.read path = .ok content) :
    set = (h.store.load h.files).2 ↔
      ∀ path ∈ sources, ∃ content, loadedFrom.read path = .ok content := by
  have hstart := (sound_start sources files).step .load
  have hs : Sound sources h := hrun ▸ hstart.run events
  have hr : Recorded sources h := hrun ▸ (recorded_load sources files).run hstart honly
  rw [hs.eq_load_iff hforce hsilent hread]
  constructor
  · intro hall path hmem
    obtain ⟨content, seen, hcontent, -, -⟩ := hall path hmem
    exact ⟨content, hcontent⟩
  · intro hall path hmem
    obtain ⟨content, hcontent⟩ := hall path hmem
    obtain ⟨current, hcurrent⟩ := hread path hmem
    have hseen := hs.lastSeen?_of_silent hsilent hmem hcurrent
    refine ⟨content, current, hcontent, hseen, ?_⟩
    rcases hr set loadedFrom path content hforce hmem hcontent with h | h
    · rw [hseen, Option.some.injEq] at h
      rw [h]
    · rw [hseen] at h
      cases h

end History

end DefinitionStore

end Telemetry
