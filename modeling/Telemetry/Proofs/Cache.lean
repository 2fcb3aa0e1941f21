import Mathlib.Data.List.Dedup
import Telemetry.Cache
import Telemetry.Proofs.Definition.Identity

/-!
# What the cache answers

The cache keeps computations under the name of the target and the identity of the definition. This
file says what it answers in terms of what was done with it before: of what was recorded since the
cache was last emptied, the latest entry for exactly this target and this definition counts, and
nothing else does (`AnswersFrom`).

A history has the latest operation first. Asking is an operation too, one that leaves the cache as
it is.

## From keys to definitions

Two definitions of a set may have one context and the same columns, but never one identity
(`IsBuilt.hasUniqueIds`). Within a set, an entry is therefore kept under the key of a definition
just when it was recorded for that definition. `Tracks` is the invariant that says so, and that the
cache has one key for each pair that the history has recorded.
-/

namespace Telemetry

namespace Keyed

variable {κ ν : Type} [DecidableEq κ]

theorem map_fst_put (entries : List (κ × ν)) (key : κ) (value : ν) :
    (put entries key value).map (·.1) = key :: (entries.map (·.1)).filter (· ≠ key) := by
  rw [put, List.map_cons, List.filter_map]
  rfl

theorem nodup_put {entries : List (κ × ν)} (h : (entries.map (·.1)).Nodup) (key : κ) (value : ν) :
    ((put entries key value).map (·.1)).Nodup := by
  rw [map_fst_put, List.nodup_cons]
  exact ⟨fun hmem ↦ of_decide_eq_true (List.mem_filter.1 hmem).2 rfl, h.filter _⟩

/-- A write adds an entry, unless there is one under its key. -/
theorem length_put {entries : List (κ × ν)} (h : (entries.map (·.1)).Nodup) (key : κ) (value : ν) :
    (put entries key value).length =
      if get? entries key = none then entries.length + 1 else entries.length := by
  have hput := congrArg List.length (map_fst_put entries key value)
  rw [List.length_map, List.length_cons] at hput
  have hfilter : (entries.map (·.1)).filter (· ≠ key) = (entries.map (·.1)).erase key := by
    rw [h.erase_eq_filter]
    exact List.filter_congr fun other _ ↦ decide_not.trans (congrArg not (beq_eq_decide ..).symm)
  rw [hput, hfilter]
  split
  · next hnone => rw [List.erase_of_not_mem (get?_eq_none_iff.1 hnone), List.length_map]
  · next hsome =>
    have hmem : key ∈ entries.map (·.1) := not_not.1 (mt get?_eq_none_iff.2 hsome)
    rw [List.length_erase_add_one hmem, List.length_map]

end Keyed

namespace MetricCache

/-! ## Histories -/

/-- What is done with a cache. -/
inductive Operation where
  | record (target : String) (d : Definition) (observations : List Observation) (now : Instant)
  | reset
  | isDue (target : String) (d : Definition) (now : Instant)
  | cached (target : String) (d : Definition)
  deriving DecidableEq

namespace Operation

/-- The target and the definition that an operation is about. -/
def subject? : Operation → Option (String × Definition)
  | record target d _ _ | isDue target d _ | cached target d => some (target, d)
  | reset => none

/-- What an operation records, and for what. -/
def entry? : Operation → Option ((String × Definition) × CacheRecord)
  | record target d observations now => some ((target, d), ⟨observations, now⟩)
  | _ => none

/-- What an operation records is for a definition of the set. -/
def IsWithin (set : DefinitionSet) (op : Operation) : Prop :=
  ∀ e, op.entry? = some e → e.1.2 ∈ set.definitions

end Operation

/-- The cache after an operation. -/
def perform (cache : MetricCache) : Operation → MetricCache
  | .record target d observations now => cache.record target d observations now
  | .reset => empty
  | .isDue _ _ _ | .cached _ _ => cache

/-- The cache after some operations, the latest one first. -/
def after : List Operation → MetricCache
  | [] => empty
  | op :: earlier => (after earlier).perform op

/-- What was recorded since the cache was last emptied, the latest entry first. -/
def sinceReset (history : List Operation) : List ((String × Definition) × CacheRecord) :=
  (history.takeWhile (· ≠ .reset)).filterMap Operation.entry?

/-- The latest entry for exactly a target and a definition. -/
def latest? (target : String) (d : Definition) (history : List Operation) : Option CacheRecord :=
  ((sinceReset history).find? (·.1 = (target, d))).map (·.2)

/-- The pairs of a target and a definition that something was recorded for. -/
def recordedPairs (history : List Operation) : List (String × Definition) :=
  ((sinceReset history).map (·.1)).dedup

section Histories

variable {target : String} {d : Definition} {history : List Operation} {op : Operation}

@[simp]
theorem sinceReset_reset (history : List Operation) : sinceReset (.reset :: history) = [] := rfl

theorem sinceReset_cons (hop : op ≠ .reset) (history : List Operation) :
    sinceReset (op :: history) = op.entry?.toList ++ sinceReset history := by
  rw [sinceReset, List.takeWhile_cons_of_pos (by simpa using hop), List.filterMap_cons]
  cases op.entry? <;> rfl

theorem latest?_eq_none_iff :
    latest? target d history = none ↔ (target, d) ∉ recordedPairs history := by
  rw [latest?, Option.map_eq_none_iff, recordedPairs, List.mem_dedup, List.find?_eq_none]
  simp only [List.mem_map, decide_eq_true_eq, not_exists, not_and]

/-- Operations that record nothing for the target and the definition leave the latest entry. -/
theorem latest?_cons (hop : op ≠ .reset) (hother : ∀ e, op.entry? = some e → e.1 ≠ (target, d)) :
    latest? target d (op :: history) = latest? target d history := by
  rw [latest?, sinceReset_cons hop]
  cases hentry : op.entry? with
  | none => rfl
  | some e =>
    rw [Option.toList_some, List.singleton_append,
      List.find?_cons_of_neg (by simpa using hother e hentry), latest?]

end Histories

/-! ## The invariant -/

/-- What the cache holds, within a set of definitions, is what the history says. -/
structure Tracks (set : DefinitionSet) (history : List Operation) (cache : MetricCache) : Prop where
  nodup_keys : (cache.records.map (·.1)).Nodup
  cached_eq : ∀ target, ∀ d ∈ set.definitions, cache.cached? target d = latest? target d history
  size_eq : cache.size = (recordedPairs history).length

variable {set : DefinitionSet} {history : List Operation} {cache : MetricCache}

theorem tracks_empty (h : sinceReset history = []) : Tracks set history empty := by
  refine ⟨List.nodup_nil, fun target d _ ↦ ?_, ?_⟩
  · rw [latest?, h]
    rfl
  · rw [recordedPairs, h]
    rfl

theorem cached?_record (target other : String) (d d' : Definition) (observations : List Observation)
    (now : Instant) :
    (cache.record target d observations now).cached? other d' =
      if (target, d.id) = (other, d'.id) then some ⟨observations, now⟩
      else cache.cached? other d' :=
  Keyed.get?_put cache.records _ _ _

/-- Within a set, the key of a definition is its own. -/
theorem key_eq_iff (hset : set.HasUniqueIds) {target other : String} {d d' : Definition}
    (hd : d ∈ set.definitions) (hd' : d' ∈ set.definitions) :
    (target, d.id) = (other, d'.id) ↔ (target, d) = (other, d') := by
  rw [Prod.mk.injEq, Prod.mk.injEq]
  exact and_congr_right' ⟨hset.eq_of_id_eq hd hd', congrArg Definition.id⟩

theorem Tracks.record (h : Tracks set history cache) (hset : set.HasUniqueIds) (target : String)
    {d : Definition} (hd : d ∈ set.definitions) (observations : List Observation) (now : Instant) :
    Tracks set (.record target d observations now :: history)
      (cache.record target d observations now) := by
  have hsince : sinceReset (.record target d observations now :: history) =
      ((target, d), ⟨observations, now⟩) :: sinceReset history :=
    sinceReset_cons (fun heq ↦ by cases heq) history
  refine ⟨Keyed.nodup_put h.nodup_keys _ _, fun other d' hd' ↦ ?_, ?_⟩
  · rw [cached?_record, latest?, hsince]
    simp only [key_eq_iff hset hd hd']
    split
    · next hpair => rw [List.find?_cons_of_pos (by simpa using hpair), Option.map_some]
    · next hpair =>
      rw [List.find?_cons_of_neg (by simpa using hpair), h.cached_eq other d' hd', latest?]
  · have hkey := h.cached_eq target d hd
    have hsize := h.size_eq
    have hpairs := @latest?_eq_none_iff target d history
    rw [← hkey, recordedPairs, List.mem_dedup] at hpairs
    rw [recordedPairs] at hsize ⊢
    rw [size, MetricCache.record, Keyed.length_put h.nodup_keys, hsince, List.map_cons]
    rw [cached?] at hpairs
    split
    · next hnone => rw [List.dedup_cons_of_notMem (hpairs.1 hnone), List.length_cons, ← hsize, size]
    · next hsome =>
      rw [List.dedup_cons_of_mem (not_not.1 fun hmem ↦ hsome (hpairs.2 hmem)), ← hsize, size]

/-- An operation that records nothing keeps the invariant, as the cache and the entries stay. -/
theorem Tracks.ask (h : Tracks set history cache) {op : Operation} (hop : op ≠ .reset)
    (hentry : op.entry? = none) : Tracks set (op :: history) cache := by
  have hsince : sinceReset (op :: history) = sinceReset history := by
    rw [sinceReset_cons hop, hentry]
    rfl
  refine ⟨h.nodup_keys, fun target d hd ↦ ?_, ?_⟩
  · rw [h.cached_eq target d hd, latest?, latest?, hsince]
  · rw [h.size_eq, recordedPairs, recordedPairs, hsince]

theorem Tracks.perform (h : Tracks set history cache) (hset : set.HasUniqueIds) {op : Operation}
    (hop : op.IsWithin set) : Tracks set (op :: history) (cache.perform op) := by
  cases op with
  | record target d observations now => exact h.record hset target (hop _ rfl) observations now
  | reset => exact tracks_empty (sinceReset_reset history)
  | isDue target d now => exact h.ask (fun heq ↦ by cases heq) rfl
  | cached target d => exact h.ask (fun heq ↦ by cases heq) rfl

theorem tracks_after (hset : set.HasUniqueIds) (hwithin : ∀ op ∈ history, op.IsWithin set) :
    Tracks set history (after history) := by
  induction history with
  | nil => exact tracks_empty rfl
  | cons op history ih =>
    rw [List.forall_mem_cons] at hwithin
    exact (ih hwithin.2).perform hset hwithin.1

/-! ## The answers -/

/-- What the cache answers within a set of definitions, in terms of what was done with it. -/
structure AnswersFrom (set : DefinitionSet) (history : List Operation) : Prop where
  cached_eq : ∀ target, ∀ d ∈ set.definitions,
    (after history).cached? target d = latest? target d history
  isDue_iff : ∀ target, ∀ d ∈ set.definitions, ∀ now,
    (after history).isDue target d now = true ↔
      d.scrapeInterval = none ∨ latest? target d history = none ∨
        ∃ interval record, d.scrapeInterval = some interval ∧
          latest? target d history = some record ∧ record.computedAt.after interval < now
  /-- What is done about another target or another definition makes no difference. -/
  kept : ∀ op : Operation, op.IsWithin set → op ≠ .reset → ∀ target, ∀ d ∈ set.definitions,
    op.subject? ≠ some (target, d) →
      (after (op :: history)).cached? target d = (after history).cached? target d ∧
        ∀ now, (after (op :: history)).isDue target d now = (after history).isDue target d now
  size_eq : (after history).size = (recordedPairs history).length

theorem cached?_after_cons (hset : set.HasUniqueIds) (hwithin : ∀ op ∈ history, op.IsWithin set)
    {op : Operation} (hop : op.IsWithin set) (hreset : op ≠ .reset) {target : String}
    {d : Definition} (hd : d ∈ set.definitions) (hsubject : op.subject? ≠ some (target, d)) :
    (after (op :: history)).cached? target d = (after history).cached? target d := by
  have htracks := tracks_after hset hwithin
  rw [htracks.cached_eq target d hd, after, (htracks.perform hset hop).cached_eq target d hd]
  refine latest?_cons hreset fun e hentry hpair ↦ hsubject ?_
  cases op with
  | record other d' observations now =>
    obtain rfl := Option.some.inj hentry
    exact congrArg some hpair
  | reset => cases hentry
  | isDue other d' now => cases hentry
  | cached other d' => cases hentry

/-- **The cache answers from the history.** Whatever set the definitions make up, and whatever is
done with the cache in whatever order and at whatever instants. -/
theorem after_answersFrom (hset : set.IsBuilt) (hwithin : ∀ op ∈ history, op.IsWithin set) :
    AnswersFrom set history := by
  have htracks := tracks_after hset.hasUniqueIds hwithin
  refine ⟨htracks.cached_eq, fun target d hd now ↦ ?_, ?_, htracks.size_eq⟩
  · rw [← htracks.cached_eq target d hd]
    exact (after history).isDue_iff target d now
  · intro op hop hreset target d hd hsubject
    have hkept := cached?_after_cons hset.hasUniqueIds hwithin hop hreset hd hsubject
    exact ⟨hkept, isDue_congr hkept⟩

/-- A definition with one column and an interval. -/
def twin (id : String) (interval : Duration) : Definition :=
  { id := id, context := "c", labels := [], columns := [⟨"v", "", .gauge, []⟩],
    fieldToAppend := none, request := "q", ignoreZeroResult := false, queryTimeout := none,
    scrapeInterval := some interval, databases := none }

/-- Two definitions with one context and the same column. -/
def twins : DefinitionSet :=
  .ofRaw [{ context := "c", help := [("v", "")], request := "q", scrapeInterval := some "30ns" },
    { context := "c", help := [("v", "")], request := "q", scrapeInterval := some "50ns" }]

/-- Both are recorded after the cache was emptied, the first one twice, with a clock that goes
back. -/
def twinHistory : List Operation :=
  [.record "a" (twin "c[v]" ⟨30⟩) [] 20, .isDue "a" (twin "c[v]#2" ⟨50⟩) 70,
    .record "a" (twin "c[v]#2" ⟨50⟩) [] 40, .record "a" (twin "c[v]" ⟨30⟩) [] 60, .reset,
    .record "b" (twin "c[v]" ⟨30⟩) [] 10]

/-- The interval of the first definition is over for both, but the record of the second one is its
own. -/
theorem after_answersFrom_twins :
    twins.definitions = [twin "c[v]" ⟨30⟩, twin "c[v]#2" ⟨50⟩] ∧ AnswersFrom twins twinHistory ∧
      (after twinHistory).isDue "a" (twin "c[v]" ⟨30⟩) 50 = false ∧
      (after twinHistory).isDue "a" (twin "c[v]" ⟨30⟩) 51 = true ∧
      (after twinHistory).isDue "a" (twin "c[v]#2" ⟨50⟩) 51 = false ∧
      (after twinHistory).size = 2 := by
  have hdefinitions : twins.definitions = [twin "c[v]" ⟨30⟩, twin "c[v]#2" ⟨50⟩] := by
    decide +kernel
  refine ⟨hdefinitions, after_answersFrom (DefinitionSet.isBuilt_ofRaw _) fun op hop e he ↦ ?_,
    by decide +kernel, by decide +kernel, by decide +kernel, by decide +kernel⟩
  rw [hdefinitions]
  simp only [twinHistory, List.mem_cons, List.not_mem_nil, or_false] at hop
  rcases hop with rfl | rfl | rfl | rfl | rfl | rfl <;> cases he <;> simp

end MetricCache

end Telemetry
