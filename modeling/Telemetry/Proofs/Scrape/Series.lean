import Mathlib.Data.List.Nodup
import Telemetry.Proofs.Definition.Labels
import Telemetry.Scrape

/-!
# The series of a row

The observations of one row share their labels, so those with one name are one series. The name of
an observation is that of its column behind the namespace and the context, and different columns
have different names there (`MetricName.join_injective`). With a column whose text names the metric
it is that text instead, whatever the value column.

So no row gives one series twice exactly if the definition has one value column at most, or if its
text names no metric and its columns differ in more than letter case
(`Definition.nodup_names_iff`): a row of nulls measures every column there is.
-/

namespace Telemetry

/-! ## Names -/

namespace MetricName

theorem filter_cons_of_ne {part : String} (h : part ≠ "") (parts : List String) :
    (part :: parts).filter (!·.isEmpty) = part :: parts.filter (!·.isEmpty) :=
  List.filter_cons_of_pos (by simpa using h)

/-- Behind a namespace, each part that is not empty stands with an underscore before it. -/
theorem toList_join {namespaceName : String} (h : namespaceName ≠ "") (subsystem name : String) :
    (join namespaceName subsystem name).toList = namespaceName.toList ++
      ([subsystem, name].filter (!·.isEmpty)).flatMap fun part ↦ '_' :: part.toList := by
  have hjoin : ∀ (first : String) (parts : List String),
      (Text.join "_" (first :: parts)).toList =
        first.toList ++ parts.flatMap fun part ↦ '_' :: part.toList := by
    intro first parts
    induction parts generalizing first with
    | nil => simp [Text.join, Text.joinWith]
    | cons part parts ih =>
      rw [List.flatMap_cons, ← List.append_assoc, List.append_cons, List.append_assoc, ← ih]
      simp [Text.join, Text.joinWith]
  rw [join, filter_cons_of_ne h, hjoin]

theorem join_empty_left (subsystem name : String) :
    join "" subsystem name = join subsystem "" name := by
  unfold join
  rw [List.filter_cons_of_neg (by simp)]
  by_cases h : subsystem = ""
  · subst h
    rfl
  · rw [filter_cons_of_ne h, filter_cons_of_ne h]
    rfl

theorem join_empty_empty (name : String) : join "" "" name = name := by
  rw [join_empty_left]
  unfold join
  rw [List.filter_cons_of_neg (by simp), List.filter_cons_of_neg (by simp)]
  by_cases h : name = ""
  · subst h
    rfl
  · rw [filter_cons_of_ne h]
    exact String.ofList_toList

/-- Behind the same parts, different names stay different. -/
theorem join_injective (namespaceName subsystem : String) :
    Function.Injective (join namespaceName subsystem) := by
  have hbehind {first second : String} (hfirst : first ≠ "") :
      Function.Injective (join first second) := by
    intro name other h
    have hparts (part : String) : [second, part].filter (!·.isEmpty) =
        [second].filter (!·.isEmpty) ++ [part].filter (!·.isEmpty) :=
      List.filter_append [second] [part]
    have hlist := congrArg String.toList h
    rw [toList_join hfirst, toList_join hfirst, List.append_cancel_left_eq, hparts, hparts,
      List.flatMap_append, List.flatMap_append, List.append_cancel_left_eq] at hlist
    -- What is left is the name itself behind an underscore, or nothing.
    by_cases hname : name = ""
    · by_cases hother : other = ""
      · rw [hname, hother]
      · simp [hname, hother] at hlist
    · by_cases hother : other = ""
      · simp [hname, hother] at hlist
      · exact String.toList_inj.1 (by simpa [hname, hother] using hlist)
  by_cases hnamespace : namespaceName = ""
  · by_cases hsubsystem : subsystem = ""
    · rw [hnamespace, hsubsystem, funext join_empty_empty]
      exact Function.injective_id
    · rw [hnamespace, funext (join_empty_left subsystem)]
      exact hbehind hsubsystem
  · exact hbehind hnamespace

end MetricName

/-! ## Rows -/

namespace Row

variable {row : Row} {name : String}

theorem get?_ofList_cons (key : String) (cell : Cell) (cells : List (String × Cell))
    (name : String) :
    (ofList ((key, cell) :: cells)).get? name =
      if Text.lower key = Text.lower name then some cell else (ofList cells).get? name := by
  by_cases h : Text.lower key = Text.lower name
  · simp [get?, ofList, h]
  · simp [get?, ofList, h]

/-- Among cells without a value, the column is found and has none. -/
theorem get?_ofList_of_null {cells : List (String × Cell)} (hnull : ∀ cell ∈ cells, cell.2 = none)
    (h : ∃ cell ∈ cells, Text.lower cell.1 = Text.lower name) :
    (ofList cells).get? name = some none := by
  induction cells with
  | nil =>
    obtain ⟨cell, hcell, -⟩ := h
    cases hcell
  | cons first cells ih =>
    obtain ⟨key, cell⟩ := first
    obtain ⟨hfirst, hnull⟩ := List.forall_mem_cons.1 hnull
    rw [get?_ofList_cons]
    split
    · exact congrArg some hfirst
    · next hkey =>
      obtain ⟨found, hfound, hname⟩ := h
      rcases List.mem_cons.1 hfound with rfl | hfound
      · exact absurd hname hkey
      · exact ih hnull ⟨found, hfound, hname⟩

/-- The row has a number for a value column, and the count that a histogram needs. -/
structure Measures (row : Row) (column : MetricColumn) : Prop where
  value : ∃ x, row.numeric column.name = .value x
  count : column.kind = .histogram → ∃ n, row.count? Scrape.countColumn = some n

/-- Without a value, a column counts as zero. -/
theorem measures_of_null {column : MetricColumn} (hvalue : row.get? column.name = some none)
    (hcount : column.kind = .histogram → row.get? Scrape.countColumn = some none) :
    row.Measures column where
  value := ⟨.zero, by rw [numeric, hvalue]⟩
  count hkind := ⟨0, by rw [count?, hcount hkind]⟩

end Row

/-! ## Observations -/

/-- The observation was made of a row, for a target with some constant labels and a definition. -/
structure Observation.IsOf (constant : List (String × String)) (d : Definition) (o : Observation) :
    Prop where
  labels : ∃ row : Row, o.labels = constant ++ d.labels.map fun label ↦ (label, row.text label)
  histogram : o.histogram.isSome = true ↔ o.kind = .histogram

namespace Scrape

variable {row : Row} {d : Definition} {namespaceName : String}
  {constant : List (String × String)} {column : MetricColumn} {o : Observation}

theorem isOf_observationOf
    (h : observationOf row d namespaceName constant column = some o) : o.IsOf constant d := by
  rw [observationOf] at h
  cases hnumeric : row.numeric column.name with
  | absent => simp [hnumeric] at h
  | invalid text => simp [hnumeric] at h
  | value x =>
    cases hkind : column.kind with
    | gauge | counter =>
      simp only [hnumeric, hkind, Option.some.injEq] at h
      subst h
      exact ⟨⟨row, rfl⟩, by simp⟩
    | histogram =>
      simp only [hnumeric, hkind, Option.map_eq_some_iff] at h
      obtain ⟨data, -, rfl⟩ := h
      exact ⟨⟨row, rfl⟩, by simp⟩

theorem isOf_of_mem_convertRow (h : o ∈ convertRow row d namespaceName constant) :
    o.IsOf constant d := by
  obtain ⟨column, -, hcolumn⟩ := List.mem_filterMap.1 h
  exact isOf_observationOf hcolumn

/-- A column that is measured gives an observation, under the name of the column. -/
theorem exists_observationOf_iff {name : String} :
    (∃ o, observationOf row d namespaceName constant column = some o ∧ o.name = name) ↔
      row.Measures column ∧ nameOf row d namespaceName column = name := by
  rw [observationOf]
  cases hnumeric : row.numeric column.name with
  | absent => exact iff_of_false (by simp) fun h ↦ by simpa [hnumeric] using h.1.value
  | invalid text => exact iff_of_false (by simp) fun h ↦ by simpa [hnumeric] using h.1.value
  | value x =>
    cases hkind : column.kind with
    | gauge | counter =>
      have hmeasures : row.Measures column := ⟨⟨x, hnumeric⟩, by simp [hkind]⟩
      simp [hmeasures]
    | histogram =>
      have hmeasures : row.Measures column ↔ ∃ n, row.count? countColumn = some n :=
        ⟨fun h ↦ h.count hkind, fun h ↦ ⟨⟨x, hnumeric⟩, fun _ ↦ h⟩⟩
      rw [hmeasures, histogramOf]
      cases row.count? countColumn with
      | none => simp
      | some n => simp

theorem exists_named_iff {name : String} :
    (∃ o ∈ convertRow row d namespaceName constant, o.name = name) ↔
      ∃ column ∈ d.columns, row.Measures column ∧ nameOf row d namespaceName column = name := by
  simp only [convertRow, List.mem_filterMap]
  constructor
  · rintro ⟨o, ⟨column, hcolumn, ho⟩, hname⟩
    exact ⟨column, hcolumn, exists_observationOf_iff.1 ⟨o, ho, hname⟩⟩
  · rintro ⟨column, hcolumn, hnamed⟩
    have hmade : ∃ o, observationOf row d namespaceName constant column = some o ∧ o.name = name :=
      exists_observationOf_iff.2 hnamed
    obtain ⟨o, ho, hname⟩ := hmade
    exact ⟨o, ⟨column, hcolumn, ho⟩, hname⟩

/-- The names of a row are those of the columns that it measures. -/
theorem names_convertRow (row : Row) (d : Definition) (namespaceName : String)
    (constant : List (String × String)) :
    (convertRow row d namespaceName constant).map (·.name) =
      (d.columns.filter fun column ↦
        (observationOf row d namespaceName constant column).isSome).map
        (nameOf row d namespaceName) := by
  unfold convertRow
  induction d.columns with
  | nil => rfl
  | cons column columns ih =>
    cases ho : observationOf row d namespaceName constant column with
    | none => rw [List.filterMap_cons_none ho, List.filter_cons_of_neg (by simp [ho]), ih]
    | some o =>
      have hname := (exists_observationOf_iff.1 ⟨o, ho, rfl⟩).2
      rw [List.filterMap_cons_some ho, List.filter_cons_of_pos (by simp [ho]), List.map_cons,
        List.map_cons, hname, ih]

/-- Where every column is measured, the names are those of all columns. -/
theorem names_convertRow_of_measures (namespaceName : String) (constant : List (String × String))
    (h : ∀ column ∈ d.columns, row.Measures column) :
    (convertRow row d namespaceName constant).map (·.name) =
      d.columns.map (nameOf row d namespaceName) := by
  rw [names_convertRow, List.filter_eq_self.2]
  intro column hcolumn
  obtain ⟨o, ho, -⟩ := exists_observationOf_iff.2 ⟨h column hcolumn, rfl⟩
  rw [ho]
  rfl

theorem nameOf_of_none (h : d.fieldToAppend = none) : nameOf row d namespaceName column =
    MetricName.join namespaceName d.context column.name := by
  rw [nameOf, h]

theorem nameOf_of_some {field : String} (h : d.fieldToAppend = some field) :
    nameOf row d namespaceName column =
      MetricName.join namespaceName d.context (MetricName.clean (row.text field)) := by
  rw [nameOf, h]

theorem map_nameOf_of_none (h : d.fieldToAppend = none) (columns : List MetricColumn) :
    columns.map (nameOf row d namespaceName) =
      (columns.map (·.name)).map (MetricName.join namespaceName d.context) := by
  rw [List.map_map]
  exact List.map_congr_left fun column _ ↦ nameOf_of_none h

/-- Nulls for the columns and for the count. -/
def allNull (columns : List MetricColumn) : List (String × Cell) :=
  (countColumn, none) :: columns.map fun column ↦ (column.name, none)

/-- A row of nulls measures all the columns that it is for. -/
theorem measures_allNull {columns : List MetricColumn} (h : column ∈ columns) :
    (Row.ofList (allNull columns)).Measures column := by
  have hnull : ∀ cell ∈ allNull columns, cell.2 = none := by
    intro cell hcell
    rcases List.mem_cons.1 hcell with rfl | hcell
    · rfl
    · obtain ⟨column, -, rfl⟩ := List.mem_map.1 hcell
      rfl
  apply Row.measures_of_null
  · refine Row.get?_ofList_of_null hnull ⟨(column.name, none), List.mem_cons_of_mem _ ?_, rfl⟩
    exact List.mem_map_of_mem (f := fun column : MetricColumn ↦ (column.name, none)) h
  · intro _
    exact Row.get?_ofList_of_null hnull ⟨_, List.mem_cons_self, rfl⟩

/-- Whether a row can give a series twice hangs on the number of columns and on their names. -/
theorem forall_nodup_names_iff (d : Definition) (namespaceName : String)
    (constant : List (String × String)) :
    (∀ cells, ((convertRow (.ofList cells) d namespaceName constant).map (·.name)).Nodup) ↔
      d.columns.length ≤ 1 ∨ (d.fieldToAppend = none ∧ (d.columns.map (·.name)).Nodup) := by
  constructor
  · intro h
    have hnames := h (allNull d.columns)
    rw [names_convertRow_of_measures namespaceName constant fun _ ↦ measures_allNull] at hnames
    cases hfield : d.fieldToAppend with
    | none =>
      rw [map_nameOf_of_none hfield] at hnames
      exact .inr ⟨rfl, hnames.of_map⟩
    | some field =>
      -- All columns have one name, which is there only once.
      rw [List.map_eq_replicate_iff.2 fun column _ ↦ nameOf_of_some hfield,
        List.nodup_replicate] at hnames
      exact .inl hnames
  · intro h cells
    rw [names_convertRow]
    generalize hmeasured : d.columns.filter _ = measured
    have hsublist : measured.Sublist d.columns := hmeasured ▸ List.filter_sublist
    rcases h with hlength | ⟨hfield, hnodup⟩
    · match measured, Nat.le_trans hsublist.length_le hlength with
      | [], _ => exact List.nodup_nil
      | [column], _ => exact List.nodup_singleton _
    · rw [map_nameOf_of_none hfield]
      exact (hnodup.sublist (hsublist.map _)).map
        (MetricName.join_injective namespaceName d.context)

end Scrape

namespace Definition

/-- A column has its key as its name, in small letters, and the kind that is given for the name. -/
theorem of_columnOf {context key help : String} {raw : RawDefinition} {column : MetricColumn}
    (h : columnOf context raw key help = .ok column) :
    column.name = Text.lower key ∧ kindOf context raw column.name = .ok column.kind := by
  obtain ⟨kind, hkind, h⟩ := bind_eq_ok_iff.1 h
  split at h
  · split at h
    · cases h
    · cases h
      exact ⟨rfl, hkind⟩
  · cases h
    exact ⟨rfl, hkind⟩

/-- The columns have the keys that were written as their names, in small letters. -/
theorem map_name_of_columnsOf {context : String} {raw : RawDefinition} {help : KeyMap String}
    {columns : List MetricColumn} (h : columnsOf context raw help = .ok columns) :
    columns.map (·.name) = help.map fun e ↦ Text.lower e.1 := by
  induction help generalizing columns with
  | nil =>
    cases h
    rfl
  | cons e help ih =>
    obtain ⟨column, hcolumn, h⟩ := bind_eq_ok_iff.1 h
    obtain ⟨rest, hrest, h⟩ := bind_eq_ok_iff.1 h
    obtain rfl := Except.ok.inj h
    rw [List.map_cons, List.map_cons, (of_columnOf hcolumn).1, ih hrest]

/-- No row gives a series of a definition twice exactly if the definition has one value column at
most, or if its text names no metric and its columns differ in more than letter case. -/
theorem nodup_names_iff {raw : RawDefinition} {d : Definition} (h : ofRaw raw = .ok d)
    (namespaceName : String) (constant : List (String × String)) :
    (∀ cells, ((Scrape.convertRow (.ofList cells) d namespaceName constant).map (·.name)).Nodup) ↔
      raw.help.length ≤ 1 ∨
        (fieldOf raw.fieldToAppend = none ∧ (raw.help.map fun e ↦ Text.lower e.1).Nodup) := by
  obtain ⟨-, columns, queryTimeout, scrapeInterval, hcolumns, rfl⟩ := eq_of_ofRaw h
  have hnames := map_name_of_columnsOf hcolumns
  have hlength := congrArg List.length hnames
  rw [List.length_map, List.length_map] at hlength
  rw [Scrape.forall_nodup_names_iff, hnames, hlength]

/-- A definition with two value columns. -/
def twoColumns : RawDefinition where
  context := "sessions"
  help := [("active", "active sessions"), ("idle", "idle sessions")]
  request := "q"

theorem nodup_names_twoColumns : ∃ d, ofRaw twoColumns = .ok d ∧
    ∀ cells, ((Scrape.convertRow (.ofList cells) d "dbmon" []).map (·.name)).Nodup := by
  obtain ⟨d, hd⟩ : ∃ d, ofRaw twoColumns = .ok d := ⟨_, rfl⟩
  refine ⟨d, hd, (nodup_names_iff hd "dbmon" []).2 (.inr ⟨rfl, ?_⟩)⟩
  decide +kernel

/-- With a text that names the metric, both columns have its name. -/
example : (ofRaw { twoColumns with fieldToAppend := some "state" }).toOption.map (fun d ↦
    (Scrape.convertRow (.ofList [("state", some "all"), ("active", some "1"), ("idle", some "2")])
      d "dbmon" []).map (·.name)) = some ["dbmon_sessions_all", "dbmon_sessions_all"] := by
  decide +kernel

/-- A definition with two keys for one column. -/
def oneColumnTwice : RawDefinition where
  context := "c"
  help := [("V", "first"), ("v", "second")]
  request := "q"

/-- Keys that differ in letter case alone give a series twice. -/
theorem not_nodup_names_oneColumnTwice :
    ¬ ∀ (raw : RawDefinition) (d : Definition), ofRaw raw = .ok d →
      ∀ (row : Row) (namespaceName : String) (constant : List (String × String)),
        ((Scrape.convertRow row d namespaceName constant).map (·.name)).Nodup := by
  intro h
  have hnodup := h oneColumnTwice _ rfl (.ofList [("v", some "1")]) "dbmon" []
  revert hnodup
  decide +kernel

end Definition

end Telemetry
