import Telemetry.Proofs.Definition.Acceptance
import Telemetry.Proofs.Exposition.Partition
import Telemetry.Proofs.Number.Order
import Telemetry.Proofs.Number.Text
import Telemetry.Proofs.Scrape.Conversion

/-!
# The bounds of histograms

The bounds of a histogram are written under the names of its bucket columns. Those that cannot be
read are left out and the others are sorted, but that does not make them upper bounds: what is not a
number has a name that can be read, and one number can be written in many ways. The bounds of a
column are numbers and strictly increasing exactly if no one of them is written as what is not a
number, and no two of them as the same number (`Definition.BoundsDiffer`).

What holds of a column holds of its rows. A row keeps some of the buckets and their order, so
increasing bounds stay increasing, and no two of them are written alike in the exposition, as a
number is told by its text. A row of nulls keeps all of the buckets, so bounds that do not increase
are seen in some row (`Definition.bounds_increase_iff`).
-/

namespace Telemetry

/-! ## Bounds as they are written -/

namespace Definition

/-- The bounds that can be read, in the order of their columns. -/
def readBounds (bounds : KeyMap String) : List Binary64 :=
  bounds.filterMap fun e ↦ Decimal.readChars? (Text.trimChars e.2.toList)

/-- No bound is written as what is not a number, and no two of them as one number. -/
structure BoundsDiffer (bounds : KeyMap String) : Prop where
  spelled : ∀ e ∈ bounds, ¬ Decimal.SpellsNaN (Text.trimChars e.2.toList)
  different : (readBounds bounds).Pairwise fun x y ↦ x.place ≠ y.place

theorem perm_bucketsOf (bounds : KeyMap String) :
    ((bucketsOf bounds).map (·.2)).Perm (readBounds bounds) := by
  have hread : readBounds bounds = (bounds.filterMap fun e ↦
      (Decimal.readChars? (Text.trimChars e.2.toList)).map fun bound ↦
        (Text.lower e.1, bound)).map (·.2) := by
    rw [List.map_filterMap, readBounds]
    refine List.filterMap_congr fun e _ ↦ ?_
    rw [Option.map_map]
    exact Option.map_id'.symm
  rw [hread, bucketsOf]
  exact (List.mergeSort_perm _ _).map _

theorem pairwise_bucketsOf (bounds : KeyMap String) :
    ((bucketsOf bounds).map (·.2)).Pairwise fun x y ↦ x.totalLE y = true := by
  rw [List.pairwise_map, bucketsOf]
  apply List.pairwise_mergeSort
  · exact fun _ _ _ ↦ Binary64.totalLE_trans
  · exact fun a b ↦ Binary64.totalLE_total a.2 b.2

theorem boundsDiffer_iff {bounds : KeyMap String} : BoundsDiffer bounds ↔
    (∀ x ∈ readBounds bounds, x.isNaN = false) ∧
      (readBounds bounds).Pairwise fun x y ↦ x.place ≠ y.place := by
  have hspelled : (∀ x ∈ readBounds bounds, x.isNaN = false) ↔
      ∀ e ∈ bounds, ¬ Decimal.SpellsNaN (Text.trimChars e.2.toList) := by
    simp only [← Decimal.exists_isNaN_iff, readBounds, List.mem_filterMap, not_exists, not_and,
      Bool.not_eq_true]
    exact ⟨fun h e he x hx ↦ h x ⟨e, he, hx⟩, fun h x ⟨e, he, hx⟩ ↦ h e he x hx⟩
  rw [hspelled]
  exact ⟨fun h ↦ ⟨h.spelled, h.different⟩, fun h ↦ ⟨h.1, h.2⟩⟩

instance (bounds : KeyMap String) : Decidable (BoundsDiffer bounds) :=
  decidable_of_iff _ boundsDiffer_iff.symm

theorem areIncreasing_bucketsOf_iff {bounds : KeyMap String} :
    Binary64.AreIncreasing ((bucketsOf bounds).map (·.2)) ↔ BoundsDiffer bounds := by
  rw [Binary64.areIncreasing_iff_of_sorted (perm_bucketsOf bounds) (pairwise_bucketsOf bounds),
    boundsDiffer_iff]

end Definition

namespace RawDefinition

variable {raw : RawDefinition} {column : String}

theorem HasKind.unique {kind kind' : MetricKind} (h : raw.HasKind column kind)
    (h' : raw.HasKind column kind') : kind = kind' := by
  rw [← kindOf_eq_ok_iff ""] at h h'
  exact Except.ok.inj (h.symm.trans h')

/-- The bounds of each histogram differ. -/
def HistogramsDiffer (raw : RawDefinition) : Prop :=
  ∀ e ∈ raw.help, raw.HasKind (Text.lower e.1) .histogram →
    ∀ bounds, raw.buckets.IsFound (Text.lower e.1) bounds → Definition.BoundsDiffer bounds

end RawDefinition

theorem KeyMap.IsFound.unique {α : Type} {m : KeyMap α} {name : String} {value value' : α}
    (h : m.IsFound name value) (h' : m.IsFound name value') : value = value' := by
  rw [← getFolded?_eq_some_iff] at h h'
  exact Option.some.inj (h.symm.trans h')

theorem MetricColumn.IsFor.areIncreasing_iff {column : MetricColumn} {raw : RawDefinition}
    {e : String × String} (h : column.IsFor raw e) :
    (column.kind = .histogram → Binary64.AreIncreasing (column.buckets.map (·.2))) ↔
      (raw.HasKind (Text.lower e.1) .histogram → ∀ bounds,
        raw.buckets.IsFound (Text.lower e.1) bounds → Definition.BoundsDiffer bounds) := by
  have hkind : column.kind = .histogram ↔ raw.HasKind (Text.lower e.1) .histogram := by
    rw [← h.name]
    exact ⟨fun hkind ↦ hkind ▸ h.kind, h.kind.unique⟩
  rw [← hkind]
  refine imp_congr_right fun hhistogram ↦ ?_
  obtain ⟨bounds, hbounds, hbuckets⟩ := h.buckets hhistogram
  rw [h.name] at hbounds
  rw [hbuckets, Definition.areIncreasing_bucketsOf_iff]
  exact ⟨fun hdiffer _ hfound ↦ hbounds.unique hfound ▸ hdiffer, fun hall ↦ hall bounds hbounds⟩

/-- What matches element by element holds of all elements alike. -/
theorem forall_mem_iff_of_forall₂ {α β : Type} {R : α → β → Prop} {p : α → Prop} {q : β → Prop}
    (hiff : ∀ a b, R a b → (p a ↔ q b)) {as : List α} {bs : List β} (h : List.Forall₂ R as bs) :
    (∀ a ∈ as, p a) ↔ ∀ b ∈ bs, q b := by
  induction h with
  | nil => simp
  | cons hab _ ih => rw [List.forall_mem_cons, List.forall_mem_cons, hiff _ _ hab, ih]

theorem Definition.IsTidy.areIncreasing_iff {d : Definition} {raw : RawDefinition}
    (h : d.IsTidy raw) :
    (∀ column ∈ d.columns, column.kind = .histogram →
      Binary64.AreIncreasing (column.buckets.map (·.2))) ↔ raw.HistogramsDiffer :=
  (forall_mem_iff_of_forall₂ (fun _ _ hfor ↦ hfor.areIncreasing_iff.symm) h.columns).symm

/-! ## Bounds in a row -/

/-- What is read off the elements that are kept is read off some of all elements, in order. -/
theorem Selects.sublist_map {α β γ : Type} {R : α → β → Prop} {f : α → γ} {g : β → γ}
    (hsame : ∀ a b, R a b → g b = f a) {as : List α} {bs : List β} (h : Selects R as bs) :
    (bs.map g).Sublist (as.map f) := by
  induction h with
  | nil => exact .slnil
  | kept hab _ ih =>
    rw [List.map_cons, List.map_cons, hsame _ _ hab]
    exact ih.cons_cons _
  | dropped _ _ ih => exact ih.cons _

theorem Selects.of_all {α β : Type} {R : α → β → Prop} {f : α → β} {as : List α}
    (h : ∀ a ∈ as, R a (f a)) : Selects R as (as.map f) := by
  induction as with
  | nil => exact .nil
  | cons a as ih =>
    rw [List.forall_mem_cons] at h
    exact .kept h.1 (ih h.2)

/-- The bounds of an observation. -/
def Observation.bounds (o : Observation) : List Binary64 :=
  (o.histogram.getD ⟨0, []⟩).buckets.map (·.1)

namespace Scrape

variable {row : Row} {d : Definition} {namespaceName : String} {constant : List (String × String)}
  {column : MetricColumn} {o : Observation}

theorem bounds_sublist (h : o.IsFrom row d namespaceName constant column)
    (hkind : column.kind = .histogram) : o.bounds.Sublist (column.buckets.map (·.2)) := by
  obtain ⟨data, hdata, -, hselects⟩ := h.histogram hkind
  rw [Observation.bounds, hdata]
  exact hselects.sublist_map fun _ _ hkept ↦ hkept.1

/-- Nulls for a column, for the count, and for all buckets. -/
def nullBuckets (column : MetricColumn) : Row :=
  .ofList <| (countColumn, none) :: (column.name, none) ::
    column.buckets.map fun bucket ↦ (bucket.1, none)

theorem holds_nullBuckets {name : String}
    (h : name ∈ countColumn :: column.name :: column.buckets.map (·.1)) :
    (nullBuckets column).Holds name none := by
  rw [← Row.get?_eq_some_iff]
  have hcells : (countColumn, none) :: (column.name, none) ::
      (column.buckets.map fun bucket ↦ (bucket.1, (none : Cell))) =
      (countColumn :: column.name :: column.buckets.map (·.1)).map fun name ↦ (name, none) := by
    rw [List.map_cons, List.map_cons, List.map_map]
    rfl
  rw [nullBuckets, hcells]
  refine Row.get?_ofList_of_null (fun cell hcell ↦ ?_) ⟨(name, none), List.mem_map_of_mem h, rfl⟩
  obtain ⟨_, -, rfl⟩ := List.mem_map.1 hcell
  rfl

/-- A row of nulls has all the bounds. -/
theorem exists_bounds_eq (d : Definition) (namespaceName : String)
    (constant : List (String × String)) (hkind : column.kind = .histogram) :
    ∃ o : Observation, o.IsFrom (nullBuckets column) d namespaceName constant column ∧
      o.bounds = column.buckets.map (·.2) := by
  refine ⟨⟨_, _, _, _, .zero, some ⟨0, column.buckets.map fun bucket ↦ (bucket.2, 0)⟩⟩,
    ⟨rfl, rfl, rfl, rfl, ⟨none, holds_nullBuckets ?_, .null⟩, fun _ ↦ ⟨_, rfl, ?_, ?_⟩,
      absurd hkind⟩, ?_⟩
  · exact List.mem_cons_of_mem _ List.mem_cons_self
  · exact ⟨none, holds_nullBuckets List.mem_cons_self, .null⟩
  · refine Selects.of_all fun bucket hbucket ↦ ⟨rfl, none, holds_nullBuckets ?_, .null⟩
    exact List.mem_cons_of_mem _ (List.mem_cons_of_mem _ (List.mem_map_of_mem hbucket))
  · rw [Observation.bounds, Option.getD_some, List.map_map]
    rfl

end Scrape

/-! ## Bounds in the exposition -/

namespace Exposition

/-- The bounds as they stand in the bucket lines of an observation. -/
def boundTexts (o : Observation) : List String := (pointsOf .histogram o).filterMap (·.bound)

theorem boundTexts_eq (o : Observation) : boundTexts o = o.bounds.map Binary64.text ++
    if o.bounds.any (· == .infinity false) then [] else ["+Inf"] := by
  rw [boundTexts, pointsOf, Observation.bounds, List.any_map, List.filterMap_append,
    List.filterMap_append, List.filterMap_map, List.map_map]
  split
  · next hany => simp [hany, Function.comp_def]
  · next hany => simp [hany, Function.comp_def]

/-- Increasing bounds are written in different ways. -/
theorem nodup_boundTexts {o : Observation} (h : Binary64.AreIncreasing o.bounds) :
    (boundTexts o).Nodup := by
  have htexts : (o.bounds.map Binary64.text).Nodup := by
    refine List.pairwise_map.2 (h.pairwise.imp fun hbelow htext ↦ ?_)
    have heq := Binary64.eq_of_text_eq hbelow.isNaN_left hbelow.isNaN_right htext
    exact absurd hbelow.place_lt (heq ▸ lt_irrefl _)
  rw [boundTexts_eq]
  split
  · rwa [List.append_nil]
  · rw [List.nodup_append']
    refine ⟨htexts, List.nodup_singleton _, ?_⟩
    rw [List.disjoint_singleton]
    intro hmem
    obtain ⟨x, -, hx⟩ := List.mem_map.1 hmem
    exact x.text_ne_plusInf hx

end Exposition

/-! ## All rows of a definition -/

/-- The bounds of all histograms that rows give are increasing, and differ in the exposition,
exactly if those of all histogram columns are increasing. -/
theorem Scrape.forall_areIncreasing_iff (d : Definition) (namespaceName : String)
    (constant : List (String × String)) :
    (∀ row, ∀ o ∈ convertRow row d namespaceName constant, o.kind = .histogram →
      Binary64.AreIncreasing o.bounds ∧ (Exposition.boundTexts o).Nodup) ↔
      ∀ column ∈ d.columns, column.kind = .histogram →
        Binary64.AreIncreasing (column.buckets.map (·.2)) := by
  constructor
  · intro h column hcolumn hkind
    obtain ⟨o, ho, hbounds⟩ := exists_bounds_eq d namespaceName constant hkind
    have hmem := List.mem_filterMap.2 ⟨column, hcolumn, observationOf_eq_some_iff.2 ho⟩
    exact hbounds ▸ (h _ o hmem (ho.kind.trans hkind)).1
  · intro h row o ho hkind
    obtain ⟨column, hcolumn, ho⟩ := List.mem_filterMap.1 ho
    have hfrom := observationOf_eq_some_iff.1 ho
    rw [hfrom.kind] at hkind
    have hincreasing := (h column hcolumn hkind).sublist (bounds_sublist hfrom hkind)
    exact ⟨hincreasing, Exposition.nodup_boundTexts hincreasing⟩

namespace Definition

/-- **When the bounds of histograms are upper bounds.** Those of a definition are numbers and
strictly increasing exactly if the bounds that are written for each histogram differ, and that is
also when those of every histogram of every row are, and when no two of its bucket lines have the
same bound. -/
theorem bounds_increase_iff {raw : RawDefinition} {d : Definition} (h : ofRaw raw = .ok d)
    (namespaceName : String) (constant : List (String × String)) :
    ((∀ column ∈ d.columns, column.kind = .histogram →
      Binary64.AreIncreasing (column.buckets.map (·.2))) ↔ raw.HistogramsDiffer) ∧
      ((∀ row, ∀ o ∈ Scrape.convertRow row d namespaceName constant, o.kind = .histogram →
        Binary64.AreIncreasing o.bounds ∧ (Exposition.boundTexts o).Nodup) ↔
        raw.HistogramsDiffer) := by
  have hcolumns := ((makes_ofRaw raw).ok d h).2.areIncreasing_iff
  exact ⟨hcolumns, (Scrape.forall_areIncreasing_iff d namespaceName constant).trans hcolumns⟩

/-- A histogram whose bounds are written in different ways, one of them in no way that can be
read. -/
def latency : RawDefinition where
  context := "io"
  help := [("latency", "IO latency")]
  kinds := [("latency", "histogram")]
  buckets := [("latency",
    [("le_10", "1e1"), ("le_5", " +5.0 "), ("le_bad", "ten"), ("le_inf", "inf")])]
  request := "q"

theorem bounds_increase_latency : ∃ d, ofRaw latency = .ok d ∧ latency.HistogramsDiffer ∧
    ∀ row, ∀ o ∈ Scrape.convertRow row d "dbmon" [], o.kind = .histogram →
      Binary64.AreIncreasing o.bounds ∧ (Exposition.boundTexts o).Nodup := by
  obtain ⟨d, hd⟩ : ∃ d, ofRaw latency = .ok d := ⟨_, rfl⟩
  have hdiffer : latency.HistogramsDiffer := by
    intro e he _ bounds hfound
    obtain rfl := List.mem_singleton.1 he
    rw [← KeyMap.getFolded?_eq_some_iff] at hfound
    have hbounds : latency.buckets.getFolded? (Text.lower "latency") = some
        [("le_10", "1e1"), ("le_5", " +5.0 "), ("le_bad", "ten"), ("le_inf", "inf")] := by
      decide +kernel
    obtain rfl := Option.some.inj (hfound.symm.trans hbounds)
    decide +kernel
  exact ⟨d, hd, hdiffer, (bounds_increase_iff hd "dbmon" []).2.2 hdiffer⟩

/-- A histogram with a bound that is not a number. -/
def unbounded : RawDefinition :=
  { latency with buckets := [("latency", [("le_1", "1"), ("le_nan", "NaN")])] }

theorem not_bounds_increase_unbounded :
    ¬ ∀ (raw : RawDefinition) (d : Definition), ofRaw raw = .ok d →
      (∀ column ∈ d.columns, column.kind = .histogram →
        Binary64.AreIncreasing (column.buckets.map (·.2))) ∧
      ∀ row, ∀ o ∈ Scrape.convertRow row d "dbmon" [], o.kind = .histogram →
        Binary64.AreIncreasing o.bounds ∧ (Exposition.boundTexts o).Nodup := by
  intro h
  have hincreasing := (h unbounded _ rfl).1 _ List.mem_cons_self rfl
  have hdiffer := areIncreasing_bucketsOf_iff.1 hincreasing
  revert hdiffer
  decide +kernel

/-- One number in two ways. -/
example : ¬ BoundsDiffer [("le_1", "1"), ("le_one", "1.0")] := by
  decide +kernel

end Definition

end Telemetry
