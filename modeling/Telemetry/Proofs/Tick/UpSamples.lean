import Telemetry.Proofs.Number.Decimal
import Telemetry.Proofs.Scrape.Series
import Telemetry.Proofs.Text.Blank
import Telemetry.Proofs.Text.Case
import Telemetry.Proofs.Tick.Labels

/-!
# The samples that say whether a target is up

Every tick publishes for each target whether it passed its check. The name of that sample is put
together from the namespace and the word `up`, and the parts of a name that are empty are left out.
So a definition can come to the same name in two ways: with no context, by a column or a text that
is the word, or with the word as its context, by a column or a text of which nothing is left
(`MetricName.join_eq_join_up_iff`).

Some row takes a definition there exactly when it can be named so
(`Scrape.canBeNamedUp_of_mem_convertRow`, `Scrape.exists_row_of_canBeNamedUp`), and a tick publishes
one sample for a target exactly when none of its definitions got there (`Scraper.Ran.tick_up`).
-/

namespace Telemetry

/-! ## Names -/

namespace MetricName

/-- A metric has the name of the up samples when one part of it is the word and the other is
empty. -/
theorem join_eq_join_up_iff {namespaceName : String} (h : namespaceName ≠ "")
    {subsystem name : String} :
    join namespaceName subsystem name = join namespaceName "" "up" ↔
      (subsystem = "" ∧ name = "up") ∨ (subsystem = "up" ∧ name = "") := by
  have hword : ∀ part : String, '_' :: part.toList = ['_', 'u', 'p'] ↔ part = "up" := by
    intro part
    rw [List.cons.injEq, and_iff_right rfl]
    change part.toList = "up".toList ↔ part = "up"
    exact String.toList_inj
  rw [← String.toList_inj, toList_join h, toList_join h, List.append_cancel_left_eq]
  change _ = ['_', 'u', 'p'] ↔ _
  by_cases hsubsystem : subsystem = ""
  · subst hsubsystem
    by_cases hname : name = ""
    · subst hname
      simp
    · rw [List.filter_cons_of_neg (by simp), filter_cons_of_ne hname]
      simpa using hword name
  · rw [filter_cons_of_ne hsubsystem]
    by_cases hname : name = ""
    · subst hname
      simpa [hsubsystem] using hword subsystem
    · -- Two parts have an underscore between them, and the word has none.
      rw [filter_cons_of_ne hname]
      refine iff_of_false (fun heq ↦ ?_) (by simp [hsubsystem, hname])
      have hmem : '_' ∈ ['u', 'p'] := by
        rw [← (List.cons.inj heq).2]
        simp
      exact absurd hmem (by decide)

/-- A text that is cleaned to the word has its first letter. -/
theorem exists_toLower_of_clean_eq_up {s : String} (h : clean s = "up") :
    ∃ c ∈ s.toList, c.toLower = 'u' := by
  have hmem : 'u' ∈ (clean s).toList := by
    rw [h]
    decide
  rw [clean, String.toList_ofList] at hmem
  obtain ⟨c, hc, hlower⟩ :=
    (Text.exists_toLower_of_mem_lowerChars hmem (by decide) (by decide)).resolve_right (by decide)
  obtain ⟨c', hc', rfl⟩ := List.mem_map.1 hc
  have hc' := List.mem_of_mem_filter hc'
  split at hlower
  · exact absurd hlower (by decide)
  · exact ⟨c', hc', hlower⟩

end MetricName

/-! ## Rows -/

namespace Row

theorem isBlank_of_toLower_eq_u {c : Char} (h : c.toLower = 'u') : Text.isBlank c = false := by
  by_cases hc : c.toNat < 0x80
  · exact Text.forall_ascii (p := fun c ↦ c.toLower = 'u' → Text.isBlank c = false) (by decide) hc h
  · rw [Text.toLower_of_not_isUpper (Text.isUpper_of_lt (by omega))] at h
    rw [h]
    decide

/-- A text that is written with the characters of numbers, apart from blanks, is not cleaned to the
word. -/
theorem clean_ne_up {s : String}
    (h : ∀ c ∈ Text.trimChars s.toList, Decimal.isNumberChar c = true) :
    MetricName.clean s ≠ "up" := by
  intro hclean
  obtain ⟨c, hc, hlower⟩ := MetricName.exists_toLower_of_clean_eq_up hclean
  have hnumber := h c (Text.mem_trimChars_of_not_isBlank hc (isBlank_of_toLower_eq_u hlower))
  rw [Decimal.isNumberChar, hlower] at hnumber
  exact absurd hnumber (by decide)

variable {row : Row} {name : String}

theorem clean_text_ne_up_of_numeric {x : Binary64} (h : row.numeric name = .value x) :
    MetricName.clean (row.text name) ≠ "up" := by
  rw [numeric] at h
  rw [text]
  cases hcell : row.get? name with
  | none =>
    rw [hcell] at h
    cases h
  | some cell =>
    cases cell with
    | none => exact clean_ne_up (List.forall_mem_nil _)
    | some s =>
      simp only [hcell] at h
      split at h
      · next hread => exact clean_ne_up (Decimal.isNumberChar_of_readChars? hread)
      · cases h

theorem clean_text_ne_up_of_count? {n : Nat} (h : row.count? name = some n) :
    MetricName.clean (row.text name) ≠ "up" := by
  rw [count?] at h
  rw [text]
  cases hcell : row.get? name with
  | none =>
    rw [hcell] at h
    cases h
  | some cell =>
    cases cell with
    | none => exact clean_ne_up (List.forall_mem_nil _)
    | some s =>
      simp only [hcell] at h
      exact clean_ne_up (Decimal.isNumberChar_of_readUnsigned? h)

/-- Two names are one column when they are one in small letters. -/
theorem text_congr {other : String} (h : Text.lower name = Text.lower other) :
    row.text name = row.text other := by
  rw [text, text, get?, get?, h]

/-- A value column and the count, both without a value. -/
def nullCells (column : MetricColumn) : List (String × Cell) :=
  [(column.name, none), (Scrape.countColumn, none)]

theorem get?_nullCells (column : MetricColumn) :
    (ofList (nullCells column)).get? column.name = some none ∧
      (ofList (nullCells column)).get? Scrape.countColumn = some none := by
  rw [nullCells]
  constructor
  · rw [get?_ofList_cons, if_pos rfl]
  · rw [get?_ofList_cons, get?_ofList_cons, if_pos rfl]
    exact ite_self _

theorem text_nullCells (column : MetricColumn) (name : String) :
    (ofList (nullCells column)).text name = "" := by
  rw [text, nullCells, get?_ofList_cons, get?_ofList_cons]
  split
  · rfl
  · split
    · rfl
    · rfl

theorem measures_nullCells (column : MetricColumn) :
    (ofList (nullCells column)).Measures column :=
  measures_of_null (get?_nullCells column).1 fun _ ↦ (get?_nullCells column).2

/-- A text in a column of its own leaves the others as they are. -/
theorem measures_cons_nullCells {column : MetricColumn} {key : String} (cell : Cell)
    (hvalue : Text.lower key ≠ Text.lower column.name)
    (hcount : column.kind = .histogram → Text.lower key ≠ Text.lower Scrape.countColumn) :
    (ofList ((key, cell) :: nullCells column)).Measures column := by
  apply measures_of_null
  · rw [get?_ofList_cons, if_neg hvalue]
    exact (get?_nullCells column).1
  · intro hkind
    rw [get?_ofList_cons, if_neg (hcount hkind)]
    exact (get?_nullCells column).2

end Row

/-! ## Definitions -/

/-- Some row can give the definition an observation with the name of the up samples. Without a
column that names the metric, one of the value columns does it. With one, it is its text: an empty
one behind the word, or the word itself where no number has to stand in its place. -/
def Definition.CanBeNamedUp (d : Definition) : Prop :=
  match d.fieldToAppend with
  | none => ∃ column ∈ d.columns,
      (d.context = "" ∧ column.name = "up") ∨ (d.context = "up" ∧ column.name = "")
  | some field => (d.context = "up" ∧ d.columns ≠ []) ∨
      (d.context = "" ∧ ∃ column ∈ d.columns, Text.lower field ≠ Text.lower column.name ∧
        (column.kind = .histogram → Text.lower field ≠ Text.lower Scrape.countColumn))

namespace Scrape

variable {d : Definition} {namespaceName : String}

/-- Whatever a row holds, a definition that comes to the name of the up samples can be named so. -/
theorem canBeNamedUp_of_mem_convertRow (hnamespace : namespaceName ≠ "") {row : Row}
    {constant : List (String × String)} {o : Observation}
    (ho : o ∈ convertRow row d namespaceName constant)
    (hname : o.name = MetricName.join namespaceName "" "up") : d.CanBeNamedUp := by
  obtain ⟨column, hcolumn, hmeasures, hup⟩ := exists_named_iff.1 ⟨o, ho, hname⟩
  rw [nameOf] at hup
  rw [Definition.CanBeNamedUp]
  cases hfield : d.fieldToAppend with
  | none =>
    rw [hfield] at hup
    exact ⟨column, hcolumn, (MetricName.join_eq_join_up_iff hnamespace).1 hup⟩
  | some field =>
    simp only [hfield] at hup
    rcases (MetricName.join_eq_join_up_iff hnamespace).1 hup with ⟨hcontext, hclean⟩ | ⟨hcontext, -⟩
    · -- Where a number has to stand the text would be that number, and not the word.
      refine .inr ⟨hcontext, column, hcolumn, fun hsame ↦ ?_, fun hkind hsame ↦ ?_⟩
      · obtain ⟨x, hx⟩ := hmeasures.value
        exact Row.clean_text_ne_up_of_numeric hx (Row.text_congr hsame ▸ hclean)
      · obtain ⟨n, hn⟩ := hmeasures.count hkind
        exact Row.clean_text_ne_up_of_count? hn (Row.text_congr hsame ▸ hclean)
    · exact .inl ⟨hcontext, List.ne_nil_of_mem hcolumn⟩

/-- A definition that can be named so is taken there by some row. -/
theorem exists_row_of_canBeNamedUp (hnamespace : namespaceName ≠ "")
    (constant : List (String × String)) (h : d.CanBeNamedUp) :
    ∃ cells, ∃ o ∈ convertRow (.ofList cells) d namespaceName constant,
      o.name = MetricName.join namespaceName "" "up" := by
  have hjoin : ∀ {subsystem name : String},
      (subsystem = "" ∧ name = "up") ∨ (subsystem = "up" ∧ name = "") →
        MetricName.join namespaceName subsystem name = MetricName.join namespaceName "" "up" :=
    (MetricName.join_eq_join_up_iff hnamespace).2
  rw [Definition.CanBeNamedUp] at h
  cases hfield : d.fieldToAppend with
  | none =>
    simp only [hfield] at h
    obtain ⟨column, hcolumn, hparts⟩ := h
    refine ⟨Row.nullCells column, exists_named_iff.2 ⟨column, hcolumn, ?_, ?_⟩⟩
    · exact Row.measures_nullCells column
    · simpa only [nameOf, hfield] using hjoin hparts
  | some field =>
    simp only [hfield] at h
    rcases h with ⟨hcontext, hcolumns⟩ | ⟨hcontext, column, hcolumn, hvalue, hcount⟩
    · obtain ⟨column, hcolumn⟩ := List.exists_mem_of_ne_nil d.columns hcolumns
      -- A row of nulls measures the column and leaves no text for the name.
      refine ⟨Row.nullCells column, exists_named_iff.2 ⟨column, hcolumn, ?_, ?_⟩⟩
      · exact Row.measures_nullCells column
      · have hclean : MetricName.clean ((Row.ofList (Row.nullCells column)).text field) = "" := by
          rw [Row.text_nullCells]
          rfl
        simpa only [nameOf, hfield] using hjoin (.inr ⟨hcontext, hclean⟩)
    · refine ⟨(field, some "up") :: Row.nullCells column,
        exists_named_iff.2 ⟨column, hcolumn, ?_, ?_⟩⟩
      · exact Row.measures_cons_nullCells (some "up") hvalue hcount
      · have htext : (Row.ofList ((field, some "up") :: Row.nullCells column)).text field =
            "up" := by
          rw [Row.text, Row.get?_ofList_cons, if_pos rfl]
          rfl
        have hclean : MetricName.clean "up" = "up" := by decide +kernel
        simpa only [nameOf, hfield, htext] using hjoin (.inl ⟨hcontext, hclean⟩)

end Scrape

/-! ## A tick -/

namespace Tick

/-- The observations with the name of the up samples and the label of a target. -/
def upSamples (namespaceName databaseLabel target : String) (observations : List Observation) :
    List Observation :=
  observations.filter fun o ↦
    o.name = MetricName.join namespaceName "" "up" ∧ o.label? databaseLabel = some target

section Up

variable {σ : Type} (server : Clocked σ) (limits : ConnectionLimits) (namespaceName : String)
  (plan : Plan) (cache : MetricCache) (started : Instant) (c : Connection σ)

/-- A target is up when it passed its check. -/
theorem up_scrapeTarget_iff_healthy :
    (scrapeTarget server limits namespaceName plan cache started c).result.up = true ↔
      (c.check server limits started).result = .healthy := by
  rw [up_scrapeTarget_iff_isValidAt]
  refine and_iff_left_of_imp fun hhealthy ↦ ?_
  rw [HealthState.isValidAt, c.invalidUntil_of_check_healthy server limits started hhealthy]

end Up

/-- What a tick publishes under the name and the label of the up sample of a target. -/
structure ReportsUp {σ : Type} (server : Clocked σ) (limits : ConnectionLimits)
    (namespaceName databaseLabel : String) (plan : Plan) (cache : MetricCache) (started : Instant)
    (observations : List Observation) (connection : Connection σ) (c : Contribution) : Prop where
  value : c.up = true ↔ (connection.check server limits started).result = .healthy
  sample : ∃ others, upSamples namespaceName databaseLabel connection.target.name observations =
    upObservation namespaceName connection.target c.up :: others
  only_iff : upSamples namespaceName databaseLabel connection.target.name observations =
      [upObservation namespaceName connection.target c.up] ↔
    ∀ d ∈ plan.definitionsFor connection.target.name, ∀ o ∈ c.publishes cache d,
      o.name ≠ MetricName.join namespaceName "" "up"
  named : ∀ d ∈ plan.definitionsFor connection.target.name, ∀ o ∈ c.publishes cache d,
    o.name = MetricName.join namespaceName "" "up" → d.CanBeNamedUp

/-- What one of several lists has to itself. -/
theorem filter_flatMap_of_mem {α β : Type} {f : α → List β} {p : β → Bool} {l : List α} {a : α}
    (hmem : a ∈ l) (hnodup : l.Nodup) (hothers : ∀ b ∈ l, b ≠ a → ∀ x ∈ f b, p x = false) :
    (l.flatMap f).filter p = (f a).filter p := by
  obtain ⟨before, behind, rfl⟩ := List.append_of_mem hmem
  have hnot : a ∉ before ++ behind := (List.nodup_cons.1 (List.nodup_middle.1 hnodup)).1
  obtain ⟨hbefore, hbehind⟩ := not_or.1 (List.mem_append.not.1 hnot)
  have hnone : ∀ part : List α, a ∉ part → (∀ b ∈ part, b ∈ before ++ a :: behind) →
      (part.flatMap f).filter p = [] := by
    intro part ha hpart
    rw [List.filter_eq_nil_iff]
    intro x hx
    obtain ⟨b, hb, hx⟩ := List.mem_flatMap.1 hx
    rw [Bool.not_eq_true]
    exact hothers b (hpart b hb) (fun heq ↦ ha (heq ▸ hb)) x hx
  rw [List.flatMap_append, List.flatMap_cons, List.filter_append, List.filter_append,
    hnone before hbefore fun b hb ↦ List.mem_append_left _ hb,
    hnone behind hbehind fun b hb ↦ List.mem_append_right _ (List.mem_cons_of_mem a hb),
    List.nil_append, List.append_nil]

end Tick

namespace Scraper

variable {σ : Type} {server : Clocked σ} {limits : ConnectionLimits} {namespaceName : String}
  {history : List TickRecord} {t : TickState σ} {s : Settings}

/-- The label with the name of its target is the first of every observation. -/
theorem Ran.label?_of_mem (hkeys : s.WellKeyed)
    (h : Ran server limits namespaceName
      (s.targets.map fun e ↦ .ofSettings s.metrics.databaseLabel e.1 e.2) history t) (fs : Files)
    {c : Contribution} (hc : c ∈ (record server limits namespaceName fs t).contributions)
    {o : Observation} (ho : o ∈ c.observations namespaceName) :
    o.label? s.metrics.databaseLabel = some c.target.name := by
  have hnames := hkeys.nodup_names
  have hfaithful := h.faithful hnames
  obtain ⟨htarget, -⟩ := isMadeOfRows_record server limits namespaceName hfaithful.attached fs c hc
  obtain ⟨e, -, htarget⟩ := List.mem_map.1 htarget
  have hname : c.target.name = e.1 := by rw [← htarget, Target.ofSettings]
  have hfirst : ∀ rest, (Observation.labels o) = c.target.labels ++ rest →
      o.label? s.metrics.databaseLabel = some c.target.name := by
    intro rest hlabels
    rw [Observation.label?, hlabels, hname, ← htarget, Target.ofSettings, List.cons_append,
      List.find?_cons_of_pos (by simp)]
    rfl
  have hparts := (hfaithful.publishedBy server limits namespaceName hnames fs).parts c hc
  rcases List.mem_cons.1 (hparts.mem_iff.1 ho) with rfl | ho
  · exact hfirst [] (List.append_nil _).symm
  · obtain ⟨d, hd, ho⟩ := List.mem_flatMap.1 ho
    obtain ⟨row, hlabels⟩ := (h.isOf_of_mem_publishes hnames fs hc hd ho).labels
    exact hfirst _ hlabels

/-- The observations with the name and the label of the up sample of a target come from its own
contribution. -/
theorem Ran.upSamples_tick (hkeys : s.WellKeyed)
    (h : Ran server limits namespaceName
      (s.targets.map fun e ↦ .ofSettings s.metrics.databaseLabel e.1 e.2) history t) (fs : Files)
    {c : Contribution} (hc : c ∈ (record server limits namespaceName fs t).contributions) :
    Tick.upSamples namespaceName s.metrics.databaseLabel c.target.name
        (Scraper.tick server limits namespaceName fs t).scraper.snapshot.observations =
      (c.observations namespaceName).filter
        fun o ↦ o.name = MetricName.join namespaceName "" "up" := by
  have hnames := hkeys.nodup_names
  have hfaithful := h.faithful hnames
  have hscraped := hfaithful.scrapedWith server limits namespaceName hnames fs
  rw [(hfaithful.publishedBy server limits namespaceName hnames fs).whole, Tick.upSamples,
    Tick.filter_flatMap_of_mem hc (List.Nodup.of_map _ hscraped.names)]
  · refine List.filter_congr fun o ho ↦ ?_
    rw [h.label?_of_mem hkeys fs hc ho]
    simp
  · intro c' hc' hne o ho
    rw [decide_eq_false_iff_not, h.label?_of_mem hkeys fs hc' ho, Option.some.injEq]
    exact fun hsame ↦ hne (hscraped.eq_of_name_eq hc' hc hsame.2)

theorem Ran.reportsUp (hkeys : s.WellKeyed)
    (h : Ran server limits namespaceName
      (s.targets.map fun e ↦ .ofSettings s.metrics.databaseLabel e.1 e.2) history t)
    (hnamespace : namespaceName ≠ "") (fs : Files) {connection : Connection σ}
    (hconnection : connection ∈ t.connections) :
    Tick.ReportsUp server limits namespaceName s.metrics.databaseLabel
      (reloaded namespaceName fs t).plan (reloaded namespaceName fs t).cache t.now
      (Scraper.tick server limits namespaceName fs t).scraper.snapshot.observations connection
      (Tick.scrapeTarget server limits namespaceName (reloaded namespaceName fs t).plan
        (reloaded namespaceName fs t).cache t.now connection).result := by
  have hnames := hkeys.nodup_names
  have hc : (Tick.scrapeTarget server limits namespaceName (reloaded namespaceName fs t).plan
      (reloaded namespaceName fs t).cache t.now connection).result ∈
        (record server limits namespaceName fs t).contributions :=
    (mem_contributions_record server limits namespaceName).2 ⟨connection, hconnection, rfl⟩
  have hvalue := Tick.up_scrapeTarget_iff_healthy server limits namespaceName
    (reloaded namespaceName fs t).plan (reloaded namespaceName fs t).cache t.now connection
  have hbelongs := (Tick.scrapedFrom_scrapeTarget server limits namespaceName
    (reloaded namespaceName fs t).plan (reloaded namespaceName fs t).cache t.now connection).belongs
  generalize (Tick.scrapeTarget server limits namespaceName (reloaded namespaceName fs t).plan
    (reloaded namespaceName fs t).cache t.now connection).result = c at hc hvalue hbelongs ⊢
  have hsamples := h.upSamples_tick hkeys fs hc
  have hparts := ((h.faithful hnames).publishedBy server limits namespaceName hnames fs).parts c hc
  rw [Contribution.observations, List.filter_cons_of_pos (by simp [Tick.upObservation,
    Observation.gauge]), hbelongs] at hsamples
  rw [Contribution.observations, hbelongs] at hparts
  refine ⟨hvalue, ⟨_, hsamples⟩, ?_, fun d hd o ho hname ↦ ?_⟩
  · rw [hsamples, List.cons.injEq, and_iff_right rfl, List.filter_eq_nil_iff]
    have hmem := fun o ↦ (hparts.cons_inv.mem_iff (a := o))
    simp only [hmem, List.mem_flatMap, decide_eq_true_eq]
    constructor
    · exact fun hall d hd o ho ↦ hall o ⟨d, hd, ho⟩
    · rintro hall o ⟨d, hd, ho⟩
      exact hall d hd o ho
  · rw [← hbelongs] at hd
    obtain ⟨row, hrow⟩ := h.exists_row_of_mem_publishes hnames fs hc hd ho
    exact Scrape.canBeNamedUp_of_mem_convertRow hnamespace hrow hname

/-- A tick publishes for each target whether it passed its check, and publishes nothing else under
that name and the label of the target exactly when none of its definitions came to the name. Which
definitions some row takes there shows in their contexts and columns. -/
theorem Ran.tick_up (hkeys : s.WellKeyed)
    (h : Ran server limits namespaceName
      (s.targets.map fun e ↦ .ofSettings s.metrics.databaseLabel e.1 e.2) history t)
    (hnamespace : namespaceName ≠ "") (fs : Files) :
    t.connections.map (·.target) =
      (s.targets.map fun e ↦ Target.ofSettings s.metrics.databaseLabel e.1 e.2) ∧
    List.Forall₂
      (Tick.ReportsUp server limits namespaceName s.metrics.databaseLabel
        (reloaded namespaceName fs t).plan (reloaded namespaceName fs t).cache t.now
        (Scraper.tick server limits namespaceName fs t).scraper.snapshot.observations)
      t.connections (record server limits namespaceName fs t).contributions ∧
    ∀ (d : Definition) (constant : List (String × String)),
      (∃ cells, ∃ o ∈ Scrape.convertRow (.ofList cells) d namespaceName constant,
        o.name = MetricName.join namespaceName "" "up") ↔ d.CanBeNamedUp := by
  refine ⟨(h.faithful hkeys.nodup_names).attached, ?_, fun d constant ↦ ?_⟩
  · rw [record]
    simp only [scrapeAll, List.map_map, List.forall₂_map_right_iff, List.forall₂_same]
    exact fun connection hmem ↦ h.reportsUp hkeys hnamespace fs hmem
  · constructor
    · rintro ⟨cells, o, ho, hname⟩
      exact Scrape.canBeNamedUp_of_mem_convertRow hnamespace ho hname
    · exact Scrape.exists_row_of_canBeNamedUp hnamespace constant

/-! ### Two runs

The run of the labels, and one with a definition whose context is the word and whose second part is
taken from a column that its query does not bring. -/

/-- The one definition of the run of the labels does not come to the name. -/
theorem tick_up_hosts :
    hostSettings.WellKeyed ∧
      Ran Rehearsal.server.steady {} "dbmon"
        (hostSettings.targets.map fun e ↦ .ofSettings hostSettings.metrics.databaseLabel e.1 e.2)
        [] beforeHosts ∧
      "dbmon" ≠ "" ∧
      ∃ up, Tick.upSamples "dbmon" "database" "db"
        (Scraper.tick Rehearsal.server.steady {} "dbmon" hostFiles
          beforeHosts).scraper.snapshot.observations =
        [Tick.upObservation "dbmon" hostTarget up] := by
  have hkeys : hostSettings.WellKeyed := ⟨by decide, by decide⟩
  have htargets : beforeHosts.connections.map (·.target) =
      hostSettings.targets.map fun e ↦ .ofSettings hostSettings.metrics.databaseLabel e.1 e.2 :=
    rfl
  have hstart : Ran Rehearsal.server.steady {} "dbmon"
      (hostSettings.targets.map fun e ↦ .ofSettings hostSettings.metrics.databaseLabel e.1 e.2)
      [] beforeHosts := .start hostFiles ["a.toml"] htargets {} .zero
  have hnamespace : "dbmon" ≠ "" := by decide
  obtain ⟨-, hreports, -⟩ := hstart.tick_up hkeys hnamespace hostFiles
  obtain ⟨hreport, -⟩ := List.forall₂_cons.1 hreports
  have hcontexts : ∀ d ∈ (reloaded "dbmon" hostFiles beforeHosts).plan.definitionsFor "db",
      d.context = "c" := by
    decide +kernel
  refine ⟨hkeys, hstart, hnamespace, _, hreport.only_iff.2 fun d hd o ho hname ↦ ?_⟩
  have hcan := hreport.named d hd o ho hname
  rw [Definition.CanBeNamedUp, hcontexts d hd] at hcan
  split at hcan
  · obtain ⟨column, -, ⟨h, -⟩ | ⟨h, -⟩⟩ := hcan
    · exact absurd h (by decide)
    · exact absurd h (by decide)
  · obtain ⟨h, -⟩ | ⟨h, -⟩ := hcan
    · exact absurd h (by decide)
    · exact absurd h (by decide)

/-- A file with a definition whose context is the word. -/
def wordFiles : Files :=
  Files.empty.write "a.toml" (Utf8.encode
    ("[[metric]]\ncontext = \"up\"\nmetricsdesc.v = \"\"\nfieldtoappend = \"name\"\n" ++
      "request = \"q\"\n"))

/-- The settings of a target with no labels of its own. -/
def plainSettings : Settings where
  targets := [("db", { url := "" })]

/-- The target itself. -/
def plainTarget : Target := .ofSettings "database" "db" { url := "" }

/-- The exporter before its first tick. Its database brings a value, and no name. -/
def beforeWord : TickState Rehearsal :=
  ⟨.start wordFiles ["a.toml"] [plainTarget],
    [.start Rehearsal.server.steady .zero plainTarget
      { responses := [⟨"", .atOnce (.ok [⟨[("v", some "0")]⟩])⟩] }], {}, .zero⟩

/-- A target that is up gets a second sample of that name, which says that it is not. -/
theorem two_up_samples_word :
    plainSettings.WellKeyed ∧
      Ran Rehearsal.server.steady {} "dbmon"
        (plainSettings.targets.map fun e ↦ .ofSettings plainSettings.metrics.databaseLabel e.1 e.2)
        [] beforeWord ∧
      (Tick.upSamples "dbmon" "database" "db"
        (Scraper.tick Rehearsal.server.steady {} "dbmon" wordFiles
          beforeWord).scraper.snapshot.observations).map (·.value) = [.one, .zero] := by
  have htargets : beforeWord.connections.map (·.target) =
      plainSettings.targets.map fun e ↦ .ofSettings plainSettings.metrics.databaseLabel e.1 e.2 :=
    rfl
  exact ⟨⟨by decide, by decide⟩, .start wordFiles ["a.toml"] htargets {} .zero, by decide +kernel⟩

end Scraper

end Telemetry
