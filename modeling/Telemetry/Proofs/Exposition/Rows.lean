import Telemetry.Proofs.Exposition.Page
import Telemetry.Proofs.Scrape.Series
import Telemetry.Proofs.Text.Case

/-!
# Rows on a page

What a database can do to the page that its rows end up on. Texts in labels are quoted and texts of
values are read as numbers; what is left is the text that names the metric. It is cleaned, but not
of every character that no name has, so a page is read exactly if nothing else is left of these
texts (`Scrape.isFaithful_page_iff`). A hyphen is enough to lose the page
(`Scrape.not_isFaithful_hyphen`), and so is the sign of a number.

A definition keeps its pages faithful for all rows exactly if no text names its metric
(`Definition.forall_isFaithful_iff`).
-/

namespace Telemetry

open Exposition

/-! ## Names that are put together -/

namespace MetricName

variable {namespaceName subsystem name : String}

theorem mem_join_of_mem (h : namespaceName ≠ "") {c : Char} (hc : c ∈ name.toList) :
    c ∈ (join namespaceName subsystem name).toList := by
  have hpart : name ∈ [subsystem, name].filter (!·.isEmpty) := by
    rw [List.mem_filter]
    refine ⟨by simp, ?_⟩
    rw [Bool.not_eq_true', Bool.eq_false_iff]
    intro hempty
    rw [String.isEmpty_iff.1 hempty] at hc
    cases hc
  rw [toList_join h]
  exact List.mem_append_right _ (List.mem_flatMap.2 ⟨name, hpart, List.mem_cons_of_mem _ hc⟩)

/-- A character of a joined name is one of its parts, or the underscore between them. -/
theorem of_mem_join (h : namespaceName ≠ "") {c : Char}
    (hc : c ∈ (join namespaceName subsystem name).toList) :
    c ∈ namespaceName.toList ∨ c = '_' ∨ c ∈ subsystem.toList ∨ c ∈ name.toList := by
  rw [toList_join h, List.mem_append, List.mem_flatMap] at hc
  refine hc.imp_right ?_
  rintro ⟨part, hpart, hc⟩
  have hpart := (List.mem_filter.1 hpart).1
  rw [List.mem_cons, List.mem_singleton] at hpart
  refine (List.mem_cons.1 hc).imp_right fun hc ↦ ?_
  rcases hpart with hpart | hpart
  · exact .inl (hpart ▸ hc)
  · exact .inr (hpart ▸ hc)

theorem ne_empty_of_isMetricName (h : isMetricName name.toList = true) : name ≠ "" := by
  rintro rfl
  exact absurd h (by decide)

/-- Behind parts that are names themselves, a part is allowed if its characters are. -/
theorem isMetricName_join_iff (hnamespace : isMetricName namespaceName.toList = true)
    (hsubsystem : isMetricName subsystem.toList = true) :
    isMetricName (join namespaceName subsystem name).toList = true ↔
      name.toList.all isNameChar = true := by
  have hne := ne_empty_of_isMetricName hnamespace
  rw [List.all_eq_true]
  constructor
  · intro h c hc
    exact all_isNameChar_of_isMetricName h c (mem_join_of_mem hne hc)
  · intro h
    have hall : ∀ c ∈ (join namespaceName subsystem name).toList, isNameChar c = true := by
      intro c hc
      rcases of_mem_join hne hc with hc | rfl | hc | hc
      · exact all_isNameChar_of_isMetricName hnamespace c hc
      · decide
      · exact all_isNameChar_of_isMetricName hsubsystem c hc
      · exact h c hc
    rw [toList_join hne] at hall ⊢
    rw [isMetricName_append_iff hnamespace, List.all_eq_true]
    exact fun c hc ↦ hall c (List.mem_append_right _ hc)

theorem join_ne_empty (h : namespaceName ≠ "") : join namespaceName subsystem name ≠ "" := by
  intro hempty
  have hlist := congrArg String.toList hempty
  rw [toList_join h] at hlist
  exact h (String.toList_inj.1 (List.append_eq_nil_iff.1 hlist).1)

theorem blank_not_mem_join (hnamespace : isMetricName namespaceName.toList = true)
    (hsubsystem : isMetricName subsystem.toList = true) (hname : ' ' ∉ name.toList) :
    ' ' ∉ (join namespaceName subsystem name).toList := by
  have hblank {cs : List Char} (h : isMetricName cs = true) : ' ' ∉ cs := fun hmem ↦
    absurd (all_isNameChar_of_isMetricName h _ hmem) (by decide)
  intro hmem
  rcases of_mem_join (ne_empty_of_isMetricName hnamespace) hmem with hmem | hmem | hmem | hmem
  · exact hblank hnamespace hmem
  · exact absurd hmem (by decide)
  · exact hblank hsubsystem hmem
  · exact hname hmem

/-- Cleaning leaves no blank. -/
theorem blank_not_mem_clean (s : String) : ' ' ∉ (clean s).toList := by
  intro h
  rw [clean, String.toList_ofList] at h
  obtain ⟨c, hc, hlower⟩ :=
    (Text.exists_toLower_of_mem_lowerChars h (by decide) (by decide)).resolve_right (by decide)
  obtain ⟨d, -, rfl⟩ := List.mem_map.1 hc
  split at hlower
  · exact absurd hlower (by decide)
  · next hne =>
    refine hne ?_
    by_cases hascii : d.toNat < 0x80
    · exact Text.forall_ascii (p := fun d ↦ d.toLower = ' ' → d = ' ') (by decide) hascii hlower
    · rwa [Text.toLower_of_not_isUpper (Text.isUpper_of_lt (by omega))] at hlower

end MetricName

/-! ## Observations -/

/-- The names in a definition are names of metrics and of labels. -/
structure Definition.HasNames (d : Definition) : Prop where
  context : isMetricName d.context.toList = true
  columns : ∀ column ∈ d.columns, isMetricName column.name.toList = true
  labels : ∀ label ∈ d.labels, isLabelName label.toList = true

namespace Scrape

variable {d : Definition} {namespaceName : String} {constant : List (String × String)}
  {rows : List Row} {row : Row} {o : Observation}

/-- The observations of a result. -/
def observationsOf (rows : List Row) (d : Definition) (namespaceName : String)
    (constant : List (String × String)) : List Observation :=
  rows.flatMap fun row ↦ convertRow row d namespaceName constant

/-- The texts that name a metric leave nothing but characters of names. -/
def TextsFit (rows : List Row) (d : Definition) (namespaceName : String)
    (constant : List (String × String)) : Prop :=
  ∀ field, d.fieldToAppend = some field →
    ∀ row ∈ rows, convertRow row d namespaceName constant ≠ [] →
      (MetricName.clean (row.text field)).toList.all isNameChar = true

theorem hasLabelNames_of_mem (hd : d.HasNames)
    (hconstant : ∀ l ∈ constant, isLabelName l.1.toList = true)
    (ho : o ∈ observationsOf rows d namespaceName constant) : HasLabelNames o := by
  obtain ⟨row, -, ho⟩ := List.mem_flatMap.1 ho
  obtain ⟨row, hlabels⟩ := (isOf_of_mem_convertRow ho).labels
  intro l hl
  rw [hlabels] at hl
  rcases List.mem_append.1 hl with hl | hl
  · exact hconstant l hl
  · obtain ⟨label, hlabel, rfl⟩ := List.mem_map.1 hl
    exact hd.labels label hlabel

theorem of_observationOf {column : MetricColumn}
    (h : observationOf row d namespaceName constant column = some o) :
    o.name = nameOf row d namespaceName column ∧ o.kind = column.kind := by
  refine ⟨(exists_observationOf_iff.1 ⟨o, h, rfl⟩).2.symm, ?_⟩
  rw [observationOf] at h
  split at h
  · cases h
  · cases h
  · cases hkind : column.kind with
    | gauge | counter =>
      rw [hkind] at h
      cases h
      rfl
    | histogram =>
      rw [hkind] at h
      obtain ⟨data, -, rfl⟩ := Option.map_eq_some_iff.1 h
      rfl

theorem exists_column_of_mem (ho : o ∈ convertRow row d namespaceName constant) :
    ∃ column ∈ d.columns, o.name = nameOf row d namespaceName column ∧ o.kind = column.kind := by
  obtain ⟨column, hcolumn, h⟩ := List.mem_filterMap.1 ho
  exact ⟨column, hcolumn, of_observationOf h⟩

variable (hnamespace : isMetricName namespaceName.toList = true) (hd : d.HasNames)

include hnamespace hd

theorem isPlain_of_mem (hconstant : ∀ l ∈ constant, isLabelName l.1.toList = true)
    (ho : o ∈ observationsOf rows d namespaceName constant) : IsPlain o := by
  have hlabels := hasLabelNames_of_mem hd hconstant ho
  obtain ⟨row, -, ho⟩ := List.mem_flatMap.1 ho
  obtain ⟨column, hcolumn, hname, -⟩ := exists_column_of_mem ho
  have hpart : ∃ part, o.name = MetricName.join namespaceName d.context part ∧
      ' ' ∉ part.toList := by
    rw [hname]
    cases hfield : d.fieldToAppend with
    | none =>
      refine ⟨column.name, nameOf_of_none hfield, fun hblank ↦ ?_⟩
      exact absurd (all_isNameChar_of_isMetricName (hd.columns column hcolumn) _ hblank) (by decide)
    | some field => exact ⟨_, nameOf_of_some hfield, MetricName.blank_not_mem_clean _⟩
  obtain ⟨part, hname, hblank⟩ := hpart
  refine ⟨?_, ?_, hlabels⟩
  · rw [hname]
    exact MetricName.join_ne_empty (MetricName.ne_empty_of_isMetricName hnamespace)
  · rw [hname]
    exact MetricName.blank_not_mem_join hnamespace hd.context hblank

/-- An observation has a name exactly if the text for it leaves nothing but characters of names. -/
theorem isMetricName_iff_of_mem (ho : o ∈ convertRow row d namespaceName constant) :
    isMetricName o.name.toList = true ↔ ∀ field, d.fieldToAppend = some field →
      (MetricName.clean (row.text field)).toList.all isNameChar = true := by
  obtain ⟨column, hcolumn, hname, -⟩ := exists_column_of_mem ho
  rw [hname]
  cases hfield : d.fieldToAppend with
  | none =>
    rw [nameOf_of_none hfield, MetricName.isMetricName_join_iff hnamespace hd.context]
    refine iff_of_true (List.all_eq_true.2 ?_) nofun
    exact all_isNameChar_of_isMetricName (hd.columns column hcolumn)
  | some field =>
    rw [nameOf_of_some hfield, MetricName.isMetricName_join_iff hnamespace hd.context]
    constructor
    · rintro h _ ⟨rfl⟩
      exact h
    · exact fun h ↦ h field rfl

theorem forall_isMetricName_iff :
    (∀ o ∈ observationsOf rows d namespaceName constant, isMetricName o.name.toList = true) ↔
      TextsFit rows d namespaceName constant := by
  constructor
  · intro h field hfield row hrow hmade
    obtain ⟨o, ho⟩ := List.exists_mem_of_ne_nil _ hmade
    exact (isMetricName_iff_of_mem hnamespace hd ho).1
      (h o (List.mem_flatMap.2 ⟨row, hrow, ho⟩)) field hfield
  · intro h o ho
    obtain ⟨row, hrow, ho⟩ := List.mem_flatMap.1 ho
    exact (isMetricName_iff_of_mem hnamespace hd ho).2 fun field hfield ↦
      h field hfield row hrow (List.ne_nil_of_mem ho)

theorem isSome_readPage?_iff (hconstant : ∀ l ∈ constant, isLabelName l.1.toList = true) :
    (readPage? (render (observationsOf rows d namespaceName constant)).toList).isSome ↔
      TextsFit rows d namespaceName constant := by
  rw [isSome_readPage?_render_iff fun o ↦ isPlain_of_mem hnamespace hd hconstant,
    forall_isMetricName_iff hnamespace hd]

theorem isFaithful_iff (hconstant : ∀ l ∈ constant, isLabelName l.1.toList = true) :
    IsFaithful (render (observationsOf rows d namespaceName constant))
      (observationsOf rows d namespaceName constant) ↔
      TextsFit rows d namespaceName constant ∧
        KindsAgree (observationsOf rows d namespaceName constant) := by
  rw [isFaithful_render_iff fun o ↦ isPlain_of_mem hnamespace hd hconstant,
    isSome_readPage?_iff hnamespace hd hconstant]

omit hnamespace hd

/-- No name is that of a histogram and of something else, if each column has its own name or if
one kind is given for all of them. -/
theorem kindsAgree_observationsOf (h : ∀ column ∈ d.columns, ∀ column' ∈ d.columns,
    (d.fieldToAppend = none → column.name = column'.name) →
      (column.kind = .histogram ↔ column'.kind = .histogram)) :
    KindsAgree (observationsOf rows d namespaceName constant) := by
  intro o ho o' ho' hname
  obtain ⟨row, -, ho⟩ := List.mem_flatMap.1 ho
  obtain ⟨row', -, ho'⟩ := List.mem_flatMap.1 ho'
  obtain ⟨column, hcolumn, hnameOf, hkind⟩ := exists_column_of_mem ho
  obtain ⟨column', hcolumn', hnameOf', hkind'⟩ := exists_column_of_mem ho'
  rw [hkind, hkind']
  refine h column hcolumn column' hcolumn' fun hfield ↦ ?_
  rw [hnameOf, hnameOf', nameOf_of_none hfield, nameOf_of_none hfield] at hname
  exact MetricName.join_injective namespaceName d.context hname

/-- A row that measures all the columns, with a signed number in one of them. -/
def signedRow (field : String) (columns : List MetricColumn) : Row :=
  .ofList ((field, some "+1") :: allNull columns)

theorem text_signedRow (field : String) (columns : List MetricColumn) :
    (signedRow field columns).text field = "+1" := by
  rw [signedRow, Row.text, Row.get?_ofList_cons, if_pos rfl]
  rfl

theorem measures_signedRow (field : String) {columns : List MetricColumn} {column : MetricColumn}
    (h : column ∈ columns) : (signedRow field columns).Measures column := by
  have hnull := measures_allNull h
  have hget (name : String) : (signedRow field columns).get? name =
      if Text.lower field = Text.lower name then some (some "+1")
      else (Row.ofList (allNull columns)).get? name := Row.get?_ofList_cons _ _ _ _
  constructor
  · have hvalue := hnull.value
    rw [Row.numeric] at hvalue ⊢
    rw [hget]
    by_cases hfield : Text.lower field = Text.lower column.name
    · rw [if_pos hfield]
      exact ⟨_, rfl⟩
    · rwa [if_neg hfield]
  · intro hkind
    have hcount := hnull.count hkind
    rw [Row.count?] at hcount ⊢
    rw [hget]
    by_cases hfield : Text.lower field = Text.lower countColumn
    · rw [if_pos hfield]
      exact ⟨1, rfl⟩
    · rwa [if_neg hfield]

/-- The page of a result is read exactly if the texts that name its metrics fit. It gives what the
result calls for exactly if, besides, no name is that of a histogram and of something else. -/
theorem isFaithful_page_iff (hnamespace : isMetricName namespaceName.toList = true)
    (hd : d.HasNames) (hconstant : ∀ l ∈ constant, isLabelName l.1.toList = true)
    (rows : List Row) :
    ((readPage? (render (observationsOf rows d namespaceName constant)).toList).isSome ↔
      TextsFit rows d namespaceName constant) ∧
    (IsFaithful (render (observationsOf rows d namespaceName constant))
      (observationsOf rows d namespaceName constant) ↔
      TextsFit rows d namespaceName constant ∧
        KindsAgree (observationsOf rows d namespaceName constant)) :=
  ⟨isSome_readPage?_iff hnamespace hd hconstant, isFaithful_iff hnamespace hd hconstant⟩

/-- Counts under the names that the database gives them. -/
def activity : Definition where
  id := "activity"
  context := "activity"
  labels := []
  columns := [⟨"value", "Events since the start.", .counter, []⟩]
  fieldToAppend := some "name"
  request := "q"
  ignoreZeroResult := false
  queryTimeout := none
  scrapeInterval := none
  databases := none

theorem hasNames_activity : activity.HasNames where
  context := by decide
  columns := by decide
  labels := nofun

theorem isFaithful_page_activity :
    let observations := observationsOf
      [.ofList [("name", some "User I/O (Wait)"), ("value", some "7")],
        .ofList [("name", some "deadlocks"), ("value", some "0")]]
      activity "dbmon" [("database", "a \"b\"\n")]
    IsFaithful (render observations) observations := by
  refine (isFaithful_page_iff (by decide) hasNames_activity (by decide) _).2.2 ⟨?_, ?_⟩
  · rintro field ⟨rfl⟩ row hrow -
    revert row
    decide +kernel
  · unfold KindsAgree
    decide +kernel

/-- A text with a hyphen makes a page that cannot be read. -/
theorem not_isFaithful_hyphen :
    ¬ ∀ (d : Definition) (namespaceName : String) (constant : List (String × String)),
      isMetricName namespaceName.toList = true → d.HasNames →
      (∀ l ∈ constant, isLabelName l.1.toList = true) →
      ∀ rows, IsFaithful (render (observationsOf rows d namespaceName constant))
        (observationsOf rows d namespaceName constant) := by
  intro h
  let rows : List Row := [.ofList [("name", some "a-b"), ("value", some "1")]]
  obtain ⟨page, hpage, -⟩ := h activity "dbmon" [] (by decide) hasNames_activity nofun rows
  have hunread : readPage? (render (observationsOf rows activity "dbmon" [])).toList = none := by
    decide +kernel
  cases hunread.symm.trans hpage

end Scrape

namespace Definition

open Scrape

/-- Every column has the kind that is given for its name. -/
theorem kindOf_of_columnsOf {context : String} {raw : RawDefinition} {help : KeyMap String}
    {columns : List MetricColumn} (h : columnsOf context raw help = .ok columns) :
    ∀ column ∈ columns, kindOf context raw column.name = .ok column.kind := by
  induction help generalizing columns with
  | nil =>
    cases h
    exact nofun
  | cons e help ih =>
    obtain ⟨column, hcolumn, h⟩ := bind_eq_ok_iff.1 h
    obtain ⟨rest, hrest, h⟩ := bind_eq_ok_iff.1 h
    obtain rfl := Except.ok.inj h
    exact List.forall_mem_cons.2 ⟨(of_columnOf hcolumn).2, ih hrest⟩

/-- The pages of a definition are faithful, whatever the database answers, exactly if no text names
its metric. -/
theorem forall_isFaithful_iff {raw : RawDefinition} {d : Definition} {namespaceName : String}
    {constant : List (String × String)} (h : ofRaw raw = .ok d)
    (hnamespace : isMetricName namespaceName.toList = true) (hd : d.HasNames)
    (hconstant : ∀ l ∈ constant, isLabelName l.1.toList = true) :
    (∀ rows, IsFaithful (render (observationsOf rows d namespaceName constant))
      (observationsOf rows d namespaceName constant)) ↔ d.fieldToAppend = none := by
  obtain ⟨hhelp, columns, queryTimeout, scrapeInterval, hcolumns, heq⟩ := eq_of_ofRaw h
  have hcolumnsOf : columns = d.columns := by rw [heq]
  rw [hcolumnsOf] at hcolumns
  simp only [isFaithful_iff hnamespace hd hconstant]
  constructor
  · intro hall
    by_contra hfield
    obtain ⟨field, hfield⟩ := Option.ne_none_iff_exists'.1 hfield
    obtain ⟨column, hcolumn⟩ : ∃ column, column ∈ d.columns := by
      have hnames := map_name_of_columnsOf hcolumns
      refine List.exists_mem_of_ne_nil _ fun hnil ↦ hhelp ?_
      rw [hnil] at hnames
      exact List.map_eq_nil_iff.1 hnames.symm
    obtain ⟨o, ho, -⟩ : ∃ o ∈ convertRow (signedRow field d.columns) d namespaceName constant,
        o.name = nameOf (signedRow field d.columns) d namespaceName column :=
      exists_named_iff.2 ⟨column, hcolumn, measures_signedRow field hcolumn, rfl⟩
    have hfits := (hall [signedRow field d.columns]).1 field hfield _ List.mem_cons_self
      (List.ne_nil_of_mem ho)
    rw [text_signedRow] at hfits
    exact absurd hfits (by decide)
  · intro hfield rows
    refine ⟨fun field hsome ↦ ?_, kindsAgree_observationsOf ?_⟩
    · cases hfield.symm.trans hsome
    · intro column hcolumn column' hcolumn' hname
      have hkind := kindOf_of_columnsOf hcolumns column hcolumn
      rw [hname hfield, kindOf_of_columnsOf hcolumns column' hcolumn'] at hkind
      rw [Except.ok.inj hkind]

end Definition

end Telemetry
